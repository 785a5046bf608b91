import BoxOffice.Venues.ChartIo
import BoxOffice.Venues.Columns

namespace BoxOffice

open Relational Python

/-!
# Venues — importing a chart from JSON

`import_chart_data` from the value that `json.load` returned.  `importChartData` starts from data
that is decoded already; here a key may be missing and a value of any type.

* `sectionColumns` — the columns of one section, up to `Section.objects.create`;
* `seatRows` — its seats, up to `bulk_create`;
* `importJson` — the call: like `importChartData` it is no transaction.
-/

section Import

variable {F : Type} {py : Builtins F} (cols : Columns py)

/-! ### One section -/

/-- The columns of a section, with the importer's defaults; its rows are not read yet. -/
def sectionColumns (data : Json F) : Except Failure SectionData := do
  let section_ ← raised data.entries
  let layout := getKey section_ "layout" (.object [])
  let name ← raised (data.index "name")
  let layout ← raised layout.entries
  return {
    name := ← cols.textOf 255 "name" name
    ordering := some (← cols.countOf "ordering" (getKey section_ "ordering" (.int 0)))
    tier := some (← cols.textOf 100 "tier" (getKey section_ "tier" (.str "")))
    numberingScheme := some (.ofText (← cols.textOf 20 "numbering_scheme"
      (getKey section_ "numbering_scheme" (.str "sequential"))))
    rowLabelScheme := some (.ofText (← cols.textOf 20 "row_label_scheme"
      (getKey section_ "row_label_scheme" (.str "skip_io"))))
    rowLabelStart := some (← cols.countOf "row_label_start"
      (getKey section_ "row_label_start" (.int 0)))
    layout := some {
      originX := some (← cols.floatOf "origin_x" (getKey layout "origin_x" (.float (py.lit 0))))
      originY := some (← cols.floatOf "origin_y" (getKey layout "origin_y" (.float (py.lit 0))))
      rotation := some (← cols.floatOf "rotation" (getKey layout "rotation" (.float (py.lit 0))))
      seatPitch := some (← cols.floatOf "seat_pitch"
        (getKey layout "seat_pitch" (.float (py.lit 1))))
      rowPitch := some (← cols.floatOf "row_pitch"
        (getKey layout "row_pitch" (.float (py.lit 1))))
      arcRadius := ← cols.nullableFloatOf "arc_radius" (getKey layout "arc_radius")
      pivotMode := some (.ofText (← cols.textOf 10 "pivot_mode"
        (getKey layout "pivot_mode" (.str "center"))))
      pivotX := some (← cols.floatOf "pivot_x" (getKey layout "pivot_x" (.float (py.lit 0))))
      pivotY := some (← cols.floatOf "pivot_y" (getKey layout "pivot_y" (.float (py.lit 0)))) }
    rows := none }

/-- One seat of a row. -/
def seatRow (row seat : Json F) : Except Failure SeatDraft := do
  let rowLabel ← raised (row.index "row_label")
  let number ← raised (seat.index "number")
  let seat ← raised seat.entries
  return {
    rowLabel := ← cols.textOf 10 "row_label" rowLabel
    number := ← cols.storeText 10 "number" (number.text py)
    x := ← cols.floatOf "x" (getKey seat "x" (.float (py.lit 0)))
    y := ← cols.floatOf "y" (getKey seat "y" (.float (py.lit 0)))
    isAccessible := (getKey seat "accessible" (.bool false)).truthy py }

/-- The seats of one row. -/
def rowSeats (row : Json F) : Except Failure (List SeatDraft) := do
  let seats ← raised (getKey (← raised row.entries) "seats" (.list [])).items
  seats.mapM (seatRow cols row)

/-- The seats of the rows of a section. -/
def seatRows (data : Json F) : Except Failure (List SeatDraft) := do
  let rows ← raised (getKey (← raised data.entries) "rows" (.list [])).items
  return (← rows.mapM (rowSeats cols)).flatten

/-- One turn of the loop.  `some e` is what ends the import. -/
def importSectionJson (db : Db) (organization chart : Nat) (data : Json F) : Db × Option Failure :=
  match sectionColumns cols data with
  | .error e => (db, some e)
  | .ok d =>
    if (sectionsOf db chart).any (·.name == d.name) then
      (db, some (.service (.integrity "unique_section_name_per_chart")))
    else
      let section_ := importedSection organization chart d db.sections.nextId
      let db := { db with
        sections := db.sections.insert (importedSection organization chart d)
          (importedSection_id organization chart d) }
      match seatRows cols data with
      | .error e => (db, some e)
      | .ok drafts =>
        if (drafts.map SeatDraft.identity).Nodup then
          ({ db with
            seats := db.seats.insertMany (newSeat section_) drafts (newSeat_id section_) }, none)
        else (db, some (.service (.integrity "unique_seat_per_section")))

/-- The loop over the sections of the file. -/
def importSectionsJson (db : Db) (organization chart : Nat) : List (Json F) → Db × Option Failure
  | [] => (db, none)
  | data :: rest =>
    match importSectionJson cols db organization chart data with
    | (db, none) => importSectionsJson db organization chart rest
    | (db, some e) => (db, some e)

/-! ### The chart -/

/-- `data["sections"]`, iterated. -/
def fileSections (data : Json F) : Except Failure (List (Json F)) := do
  raised (← raised (data.index "sections")).items

/-- Fill a chart with the sections of the file. -/
def fillChartJson (db : Db) (chart : SeatingChart) (data : Json F) :
    Db × Except Failure SeatingChart :=
  match fileSections data with
  | .error e => (db, .error e)
  | .ok sections =>
    match importSectionsJson cols db chart.organization chart.id sections with
    | (db, none) => (db, .ok chart)
    | (db, some e) => (db, .error e)

/-- `name or data["chart"]["name"]`. -/
def importNameJson (data : Json F) (name : Option String) : Except Failure (Json F) :=
  match name with
  | some n =>
    if n = "" then do raised ((← raised (data.index "chart")).index "name") else .ok (.str n)
  | none => do raised ((← raised (data.index "chart")).index "name")

/-- `SeatingChart.objects.filter(organization=…, venue=…, name=…).first()`; no name is null. -/
def findChart (py : Builtins F) (db : Db) (venue : Venue) : Json F → Option SeatingChart
  | .null => none
  | name => db.seatingCharts.rows.find? fun c =>
      c.organization == venue.organization && c.venue == venue.id && c.name == name.text py

/-- `import_chart_data`: the database afterwards, and the chart or what ended the import. -/
def importJson (db : Db) (venue : Venue) (data : Json F) (name : Option String)
    (replace : Bool) : Db × Except Failure SeatingChart :=
  match importNameJson data name with
  | .error e => (db, .error e)
  | .ok chartName =>
    match findChart py db venue chartName with
    | some existing =>
      if !replace then
        (db, .error (.service (.chartImport
          s!"A seating chart named {chartName.repr py} already exists on {venue.name} (id={existing.id}). Pass replace=True to overwrite it.")))
      else if liveChartTickets db existing.id ≠ [] then
        (db, .error (.service (.chartImport
          s!"Chart {chartName.repr py} (id={existing.id}) has {(liveChartTickets db existing.id).length} seat(s) with a live ticket issued; refusing to overwrite it. Void/refund those tickets first, or import under a different name.")))
      else
        match deleteSections db ((sectionsOf db existing.id).map (·.id)) with
        | .error e => (db, .error (.service e))
        | .ok db => fillChartJson cols db existing data
    | none =>
      match cols.textOf 255 "name" chartName with
      | .error e => (db, .error e)
      | .ok stored =>
        fillChartJson cols
          { db with seatingCharts := db.seatingCharts.insert (newChart venue stored) }
          (newChart venue stored db.seatingCharts.nextId) data

end Import

end BoxOffice
