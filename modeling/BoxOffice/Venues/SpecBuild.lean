import BoxOffice.Venues.SpecJson

namespace BoxOffice

open Relational Python

/-!
# Venues — a chart from a validated spec

`build_chart_from_spec` with the columns of the database.

* `OnFloats.buildSection` — one turn of the loop: the section, then its seats;
* `OnFloats.buildChartFromSpec` — the call, a transaction: an error leaves nothing behind.
-/

section Build

variable {F : Type} {py : Builtins F} (cols : Columns py)

/-- The parameters `build_chart_from_spec` passes on; the pivot has its default. -/
def specParamsJson (py : Builtins F) (s : SectionSpecJson F) : SectionParams F where
  originX := s.originX
  originY := s.originY
  rotation := s.rotation
  seatPitch := s.seatPitch
  rowPitch := s.rowPitch
  rowXOffset := s.rowXOffset
  offsetMode := s.offsetMode
  altRowSeatDelta := s.altRowSeatDelta
  arcRadius := s.arcRadius
  pivotMode := .center
  pivotX := py.lit 0
  pivotY := py.lit 0
  rows := s.rows
  seatsPerRow := s.seatsPerRow
  removedSeats := s.removedSeats
  accessibleSeats := s.accessibleSeats
  numberingScheme := s.numberingScheme
  rowLabelScheme := s.rowLabelScheme
  rowLabelStart := s.rowLabelStart

/-- The row of a section of the spec. -/
def specRow (organization chart ordering : Nat) (name tier : String) (params : SectionParams)
    (id : Nat) : Section where
  id := id
  organization := organization
  chart := chart
  name := name
  ordering := ordering
  tier := tier
  params := params

/-- The row of a section has the key it was given. -/
theorem specRow_id (organization chart ordering : Nat) (name tier : String)
    (params : SectionParams) (id : Nat) :
    (specRow organization chart ordering name tier params id).id = id := rfl

/-- `Section.objects.create`. -/
def createSection (db : Db) (organization chart ordering : Nat) (name tier : String)
    (params : SectionParams F) : Except Failure (Db × SectionObject F) := do
  let _ ← cols.storeText 255 "name" name
  let _ ← cols.storeText 100 "tier" tier
  let stored ← cols.storeParams params
  if (sectionsOf db chart).any (·.name == name) then
    .error (.service (.integrity "unique_section_name_per_chart"))
  else
    return ({ db with
      sections := db.sections.insert (specRow organization chart ordering name tier stored)
        (specRow_id organization chart ordering name tier stored) },
      ⟨specRow organization chart ordering name tier stored db.sections.nextId, params⟩)

namespace OnFloats

/-- `compute_row_counts` of the parameters. -/
def rowCounts (p : SectionParams F) : List Nat :=
  computeRowCounts p.rows p.seatsPerRow p.offsetMode p.altRowSeatDelta

/-- One turn of the loop: create the section, then generate its seats. -/
def buildSection (db : Db) (organization chart ordering : Nat) (s : SectionSpecJson F) :
    Except Failure Db := do
  let (db, section_) ← createSection cols db organization chart ordering s.name s.tier
    (specParamsJson py s)
  generateSeats cols db section_ (rowCounts section_.params) section_.params.removedSeats
    section_.params.accessibleSeats false

/-- The loop over the sections of the spec. -/
def buildSections (db : Db) (organization chart : Nat) :
    Nat → List (SectionSpecJson F) → Except Failure Db
  | _, [] => .ok db
  | ordering, s :: rest => do
    let db ← buildSection cols db organization chart ordering s
    buildSections db organization chart (ordering + 1) rest

/-- `(name or spec["chart_name"]).strip()[:255] or "Parsed chart"`. -/
def specChartName (py : Builtins F) (spec : ChartSpecJson F) (name : Option String) : String :=
  let given := match name with
    | some n => if n = "" then spec.chartName else n
    | none => spec.chartName
  let short := takeChars 255 (py.chars.strip given)
  if short = "" then "Parsed chart" else short

/-- The chart to fill, and the database with that chart empty. -/
def openChart (db : Db) (venue : Venue) (chartName : String) (replace : Bool) :
    Except Failure (Db × SeatingChart) :=
  match db.seatingCharts.rows.find? fun c =>
      c.organization == venue.organization && c.venue == venue.id && c.name == chartName with
  | some existing =>
    if !replace then
      .error (.service (.chartParsing
        s!"A seating chart named {py.quote chartName} already exists on {venue.name} (id={existing.id}). Pass replace=True (or pick another name) to overwrite it."))
    else if liveChartTickets db existing.id ≠ [] then
      .error (.service (.chartParsing
        s!"Chart {py.quote chartName} (id={existing.id}) has {(liveChartTickets db existing.id).length} seat(s) with a live ticket issued; refusing to overwrite it. Void/refund those tickets first, or import under a different name."))
    else
      match deleteSections db ((sectionsOf db existing.id).map (·.id)) with
      | .error e => .error (.service e)
      | .ok db => .ok (db, existing)
  | none => do
    let _ ← cols.storeText 255 "name" chartName
    return ({ db with
        seatingCharts := db.seatingCharts.insert (newChart venue chartName)
          (newChart_id venue chartName) },
      newChart venue chartName db.seatingCharts.nextId)

/-- `build_chart_from_spec`. -/
def buildChartFromSpec (db : Db) (venue : Venue) (spec : Json F) (name : Option String)
    (replace : Bool) : Except Failure (Db × SeatingChart) := do
  let spec ← validateChartSpec py spec
  let (db, chart) ← openChart cols db venue (specChartName py spec name) replace
  let db ← buildSections cols db chart.organization chart.id 0 spec.sections
  return (db, chart)

end OnFloats

end Build

end BoxOffice
