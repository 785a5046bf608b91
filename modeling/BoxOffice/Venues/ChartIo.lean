import BoxOffice.Relational.Sorted
import BoxOffice.Venues.Generation
import Mathlib.Algebra.Order.Ring.Rat
import Mathlib.Data.List.Dedup
import Mathlib.Data.String.Basic

namespace BoxOffice

open Relational

/-!
# Venues — exporting and importing a seating chart

The functions of `venues.chart_io`, on the decoded JSON.

* `exportChartData` writes the sections of a chart in display order, each with its rows of seats;
* `importChartData` builds a chart from such data, section by section; it is not a transaction,
  so an error leaves what was written before it.

A key that the importer may find missing is an `Option`.
-/

/-- One seat of a row. -/
structure SeatData where
  number : String
  x : Option ℚ
  y : Option ℚ
  accessible : Option Bool
deriving Repr, DecidableEq

/-- One row of a section. -/
structure RowData where
  rowLabel : String
  seats : Option (List SeatData)
deriving Repr, DecidableEq

/-- The `layout` object of a section. -/
structure LayoutData where
  originX : Option ℚ
  originY : Option ℚ
  rotation : Option ℚ
  seatPitch : Option ℚ
  rowPitch : Option ℚ
  arcRadius : Option ℚ
  pivotMode : Option PivotMode
  pivotX : Option ℚ
  pivotY : Option ℚ
deriving Repr, DecidableEq

/-- One section of a chart. -/
structure SectionData where
  name : String
  ordering : Option Nat
  tier : Option String
  numberingScheme : Option NumberingScheme
  rowLabelScheme : Option RowLabelScheme
  rowLabelStart : Option Nat
  layout : Option LayoutData
  rows : Option (List RowData)
deriving Repr, DecidableEq

/-- The JSON shape of a chart. -/
structure ChartData where
  name : String
  sections : List SectionData
deriving Repr, DecidableEq

/-! ### Export -/

/-- A section as the exporter reads it: its columns and `section.seats.all()`. -/
structure SectionView where
  name : String
  ordering : Nat
  tier : String
  params : SectionParams
  seats : List SeatDraft
deriving Repr, DecidableEq

/-- The columns of a seat apart from its keys. -/
def Seat.draft (s : Seat) : SeatDraft where
  rowLabel := s.rowLabel
  number := s.number
  x := s.x
  y := s.y
  isAccessible := s.isAccessible

/-- `(row_label, number)`, the order of `section.seats.all()`. -/
def SeatDraft.place (d : SeatDraft) : String ×ₗ String := toLex (d.rowLabel, d.number)

/-- A section with its seats. -/
def sectionView (db : Db) (s : Section) : SectionView where
  name := s.name
  ordering := s.ordering
  tier := s.tier
  params := s.params
  seats := sortBy SeatDraft.place ((seatsOf db s.id).map Seat.draft)

/-- The sections of a chart, in key order. -/
def sectionsOf (db : Db) (chart : Nat) : List Section :=
  db.sections.rows.filter fun s => s.chart == chart

/-- `chart.sections.order_by("ordering", "name")`. -/
def orderedSections (db : Db) (chart : Nat) : List Section :=
  sortBy (fun s => toLex (s.ordering, s.name)) (sectionsOf db chart)

/-- `min(s.y for s in …)`. -/
def minY (seats : List SeatDraft) : ℚ :=
  match seats with
  | [] => 0
  | s :: rest => rest.foldl (fun y s => min y s.y) s.y

/-- The labels of the rows, front to back. -/
def rowOrder (seats : List SeatDraft) : List String :=
  sortBy (fun label => toLex (minY (seats.filter fun s => s.rowLabel = label), label))
    (seats.map (·.rowLabel)).dedup

/-- One seat of the export. -/
def seatData (s : SeatDraft) : SeatData where
  number := s.number
  x := some s.x
  y := some s.y
  accessible := some s.isAccessible

/-- The seats of one row, left to right. -/
def rowData (label : String) (seats : List SeatDraft) : RowData where
  rowLabel := label
  seats := some ((sortBy (·.x) (seats.filter fun s => s.rowLabel = label)).map seatData)

/-- The entry of one section. -/
def exportSection (s : SectionView) : SectionData where
  name := s.name
  ordering := some s.ordering
  tier := some s.tier
  numberingScheme := some s.params.numberingScheme
  rowLabelScheme := some s.params.rowLabelScheme
  rowLabelStart := some s.params.rowLabelStart
  layout := some {
    originX := some s.params.originX
    originY := some s.params.originY
    rotation := some s.params.rotation
    seatPitch := some s.params.seatPitch
    rowPitch := some s.params.rowPitch
    arcRadius := s.params.arcRadius
    pivotMode := some s.params.pivotMode
    pivotX := some s.params.pivotX
    pivotY := some s.params.pivotY }
  rows := some ((rowOrder s.seats).map fun label => rowData label s.seats)

/-- The sections of a chart as the exporter reads them. -/
def chartViews (db : Db) (chart : Nat) : List SectionView :=
  (orderedSections db chart).map (sectionView db)

/-- `export_chart_data`. -/
def exportChartData (db : Db) (chart : SeatingChart) : ChartData where
  name := chart.name
  sections := (chartViews db chart.id).map exportSection

/-! ### Import -/

/-- The defaults of the `Section` columns. -/
def sectionDefaults : SectionParams where
  originX := 0
  originY := 0
  rotation := 0
  seatPitch := 1
  rowPitch := 1
  rowXOffset := 0
  offsetMode := .repeated
  altRowSeatDelta := 0
  arcRadius := none
  pivotMode := .center
  pivotX := 0
  pivotY := 0
  rows := 4
  seatsPerRow := 8
  removedSeats := []
  accessibleSeats := []
  numberingScheme := .sequential
  rowLabelScheme := .skipIo
  rowLabelStart := 0

/-- The parameters `import_chart_data` passes to `Section.objects.create`. -/
def importParams (d : SectionData) : SectionParams :=
  { sectionDefaults with
    numberingScheme := d.numberingScheme.getD .sequential
    rowLabelScheme := d.rowLabelScheme.getD .skipIo
    rowLabelStart := d.rowLabelStart.getD 0
    originX := (d.layout.bind (·.originX)).getD 0
    originY := (d.layout.bind (·.originY)).getD 0
    rotation := (d.layout.bind (·.rotation)).getD 0
    seatPitch := (d.layout.bind (·.seatPitch)).getD 1
    rowPitch := (d.layout.bind (·.rowPitch)).getD 1
    arcRadius := d.layout.bind (·.arcRadius)
    pivotMode := (d.layout.bind (·.pivotMode)).getD .center
    pivotX := (d.layout.bind (·.pivotX)).getD 0
    pivotY := (d.layout.bind (·.pivotY)).getD 0 }

/-- One imported seat. -/
def importSeat (rowLabel : String) (s : SeatData) : SeatDraft where
  rowLabel := rowLabel
  number := s.number
  x := s.x.getD 0
  y := s.y.getD 0
  isAccessible := s.accessible.getD false

/-- The seats of the rows of a section. -/
def importSeats (d : SectionData) : List SeatDraft :=
  ((d.rows.getD []).map fun row => (row.seats.getD []).map (importSeat row.rowLabel)).flatten

/-- The text columns of a section and of a seat, against their lengths. -/
def sectionFits (name tier : String) : Bool := name.length ≤ 255 && tier.length ≤ 100

def SeatDraft.fits (d : SeatDraft) : Bool := d.rowLabel.length ≤ 10 && d.number.length ≤ 10

/-- The row of an imported section. -/
def importedSection (organization chart : Nat) (d : SectionData) (id : Nat) : Section where
  id := id
  organization := organization
  chart := chart
  name := d.name
  ordering := d.ordering.getD 0
  tier := d.tier.getD ""
  params := importParams d

/-- An imported section has the key it was given. -/
theorem importedSection_id (organization chart : Nat) (d : SectionData) (id : Nat) :
    (importedSection organization chart d id).id = id := rfl

/-- One turn of the loop: create the section, then its seats in bulk.  `some e` is the error
    that ends the import. -/
def importSection (db : Db) (organization chart : Nat) (d : SectionData) :
    Db × Option ServiceError :=
  if !sectionFits d.name (d.tier.getD "") then (db, some (.integrity "value too long"))
  else if (sectionsOf db chart).any (·.name == d.name) then
    (db, some (.integrity "unique_section_name_per_chart"))
  else
    let section_ := importedSection organization chart d db.sections.nextId
    let db := { db with
      sections := db.sections.insert (importedSection organization chart d)
        (importedSection_id organization chart d) }
    let drafts := importSeats d
    if !drafts.all SeatDraft.fits then (db, some (.integrity "value too long"))
    else if (drafts.map SeatDraft.identity).Nodup then
      ({ db with seats := db.seats.insertMany (newSeat section_) drafts (newSeat_id section_) },
        none)
    else (db, some (.integrity "unique_seat_per_section"))

/-- The loop over the sections of the data. -/
def importSections (db : Db) (organization chart : Nat) :
    List SectionData → Db × Option ServiceError
  | [] => (db, none)
  | d :: rest =>
    match importSection db organization chart d with
    | (db, none) => importSections db organization chart rest
    | (db, some e) => (db, some e)

/-- Fill a chart with the sections of the data. -/
def fillChart (db : Db) (chart : SeatingChart) (data : ChartData) :
    Db × Except ServiceError SeatingChart :=
  match importSections db chart.organization chart.id data.sections with
  | (db, none) => (db, .ok chart)
  | (db, some e) => (db, .error e)

/-- The live tickets on the seats of a chart. -/
def liveChartTickets (db : Db) (chart : Nat) : List Ticket :=
  db.tickets.rows.filter fun t =>
    t.seat.any
      (fun s => (db.seats.get? s).any fun x => (sectionsOf db chart).any (·.id == x.section_))
      && decide t.Live

/-- The row of a new chart. -/
def newChart (venue : Venue) (name : String) (id : Nat) : SeatingChart where
  id := id
  organization := venue.organization
  venue := venue.id
  name := name

/-- A new chart has the key it was given. -/
theorem newChart_id (venue : Venue) (name : String) (i : Nat) :
    Keyed.key (newChart venue name i) = i := rfl

/-- `name or data["chart"]["name"]`. -/
def importName (data : ChartData) (name : Option String) : String :=
  match name with
  | some n => if n = "" then data.name else n
  | none => data.name

/-- `import_chart_data`: the database afterwards, and the chart or the error. -/
def importChartData (db : Db) (venue : Venue) (data : ChartData) (name : Option String)
    (replace : Bool) : Db × Except ServiceError SeatingChart :=
  let chartName := importName data name
  match db.seatingCharts.rows.find? fun c =>
      c.organization == venue.organization && c.venue == venue.id && c.name == chartName with
  | some existing =>
    if !replace then
      (db, .error (.chartImport
        s!"A seating chart named {reprName chartName} already exists on {venue.name} (id={existing.id}). Pass replace=True to overwrite it."))
    else if liveChartTickets db existing.id ≠ [] then
      (db, .error (.chartImport
        s!"Chart {reprName chartName} (id={existing.id}) has {(liveChartTickets db existing.id).length} seat(s) with a live ticket issued; refusing to overwrite it. Void/refund those tickets first, or import under a different name."))
    else
      match deleteSections db ((sectionsOf db existing.id).map (·.id)) with
      | .error e => (db, .error e)
      | .ok db => fillChart db existing data
  | none =>
    if 255 < chartName.length then (db, .error (.integrity "value too long"))
    else
      fillChart { db with seatingCharts := db.seatingCharts.insert (newChart venue chartName) }
        (newChart venue chartName db.seatingCharts.nextId) data

end BoxOffice
