import BoxOffice.Venues.ChartIo

namespace BoxOffice

open Relational

/-!
# Venues — building a chart from a parsed spec

The second and third stage of `venues.chart_parsing`.

* `validateChartSpec` normalises a raw spec: counts clamped, numbers coerced, choices checked,
  names non-empty and unique, `center` alignment folded into an offset;
* `buildChartFromSpec` creates a chart from the result, and its seats with the generator, in one
  transaction.

A raw value that is missing, or that `int()` or `float()` refuses, is `none`.
-/

/-- `str.lower` and `str.strip`. -/
structure Text where
  lower : String → String
  strip : String → String

/-- The limits of the module. -/
def maxRows : Int := 100
def maxSeatsPerRow : Int := 100
def maxSections : Nat := 40

inductive RowAlignment
  | edge | center
deriving Repr, DecidableEq

/-- One entry of the raw `sections`, each value after its conversion.  The override lists are
    what `_seat_identity_list` makes of them. -/
structure RawSection where
  name : String
  tier : String
  rows : Option Int
  seatsPerRow : Option Int
  originX : Option ℚ
  originY : Option ℚ
  rotation : Option ℚ
  seatPitch : Option ℚ
  rowPitch : Option ℚ
  /-- `none` is `null`, `some none` is no number. -/
  arcRadius : Option (Option ℚ)
  offsetMode : Option OffsetMode
  rowXOffset : Option ℚ
  altRowSeatDelta : Option Int
  numberingScheme : Option NumberingScheme
  rowLabelScheme : Option RowLabelScheme
  rowLabelStart : Option Int
  removedSeats : List SeatIdentity
  accessibleSeats : List SeatIdentity
  rowAlignment : Option RowAlignment
deriving Repr, DecidableEq

/-- The raw spec; an entry that is not an object is `none`. -/
structure RawSpec where
  chartName : String
  sections : Option (List (Option RawSection))
deriving Repr, DecidableEq

/-- One validated section. -/
structure SectionSpec where
  name : String
  tier : String
  rows : Nat
  seatsPerRow : Nat
  originX : ℚ
  originY : ℚ
  rotation : ℚ
  seatPitch : ℚ
  rowPitch : ℚ
  arcRadius : Option ℚ
  offsetMode : OffsetMode
  rowXOffset : ℚ
  altRowSeatDelta : Int
  numberingScheme : NumberingScheme
  rowLabelScheme : RowLabelScheme
  rowLabelStart : Nat
  removedSeats : List SeatIdentity
  accessibleSeats : List SeatIdentity
deriving Repr, DecidableEq

/-- A validated spec. -/
structure ChartSpec where
  chartName : String
  sections : List SectionSpec
deriving Repr, DecidableEq

/-! ### Normalisation -/

/-- `_clamp_int`. -/
def clampInt (value : Option Int) (low high default : Int) : Int :=
  match value with
  | none => default
  | some n => max low (min high n)

/-- `_as_float(…) or 1.0`. -/
def asPitch (value : Option ℚ) : ℚ :=
  if value.getD 1 = 0 then 1 else value.getD 1

/-- The radius: a number above zero, or none. -/
def asRadius (value : Option (Option ℚ)) : Option ℚ :=
  (value.map fun r => r.getD 0).filter fun r => 0 < r

/-- `offset_mode if offset_mode in offset_values else REPEATED`, and its siblings. -/
def asOffsetMode : Option OffsetMode → OffsetMode
  | some .alternating => .alternating
  | _ => .repeated

def asNumberingScheme : Option NumberingScheme → NumberingScheme
  | none | some (.other _) => .sequential
  | some scheme => scheme

def asRowLabelScheme : Option RowLabelScheme → RowLabelScheme
  | none | some (.other _) => .skipIo
  | some scheme => scheme

/-- `text[:n]`. -/
def takeChars (n : Nat) (text : String) : String := String.ofList (text.toList.take n)

/-- The loop that makes a name unique.  Among one name more than were seen one is free, so the
    loop never runs longer. -/
def freshName (text : Text) (seen : List String) (base : String) :
    Nat → Nat → String → String
  | 0, _, name => name
  | fuel + 1, suffix, name =>
    if seen.contains (text.lower name) then
      freshName text seen base fuel (suffix + 1) s!"{base} ({suffix})"
    else name

/-- `max(occupied, key=lambda pair: (pair[1], pair[0]))`, pairs being `(width, index)` here. -/
def widestRow (first : Nat × Nat) (rest : List (Nat × Nat)) : Nat × Nat :=
  rest.foldl (fun best row =>
    if best.1 < row.1 ∨ (best.1 = row.1 ∧ best.2 < row.2) then row else best) first

/-- `_derived_center_offset`. -/
def derivedCenterOffset (s : SectionSpec) : ℚ :=
  if s.offsetMode = .alternating then 0
  else
    let labels := generateRowLabels s.rows s.rowLabelScheme s.rowLabelStart
    let widths := labels.map fun label =>
      s.seatsPerRow - s.removedSeats.countP fun i => i.1 == label
    match widths.zipIdx.filter fun row => 0 < row.1 with
    | first :: second :: rest =>
      let occupied := first :: second :: rest
      let widest := widestRow first (second :: rest)
      -- The front row is the widest: anchor on the last one.
      let anchor := if widest.2 = first.2 then (second :: rest).getLastD second else widest
      let slope : ℚ := ((anchor.1 : ℚ) - first.1) / ((anchor.2 : ℚ) - first.2)
      let fitting := occupied.countP fun row =>
        decide (|(row.1 : ℚ) - (first.1 + slope * ((row.2 : ℚ) - first.2))| ≤ 5 / 4)
      if (fitting : ℚ) < 3 / 4 * occupied.length then 0
      else max (-2) (min 2 (-s.seatPitch * slope / 2))
    | _ => 0

/-- One turn of the validation loop, but for the name. -/
def validateSection (raw : RawSection) (name : String) : SectionSpec :=
  let s : SectionSpec := {
    name := takeChars 255 name
    tier := takeChars 100 raw.tier
    rows := (clampInt raw.rows 1 maxRows 4).toNat
    seatsPerRow := (clampInt raw.seatsPerRow 1 maxSeatsPerRow 8).toNat
    originX := raw.originX.getD 0
    originY := raw.originY.getD 0
    rotation := raw.rotation.getD 0
    seatPitch := asPitch raw.seatPitch
    rowPitch := asPitch raw.rowPitch
    arcRadius := asRadius raw.arcRadius
    offsetMode := asOffsetMode raw.offsetMode
    rowXOffset := raw.rowXOffset.getD 0
    altRowSeatDelta := clampInt raw.altRowSeatDelta (-maxSeatsPerRow) maxSeatsPerRow 0
    numberingScheme := asNumberingScheme raw.numberingScheme
    rowLabelScheme := asRowLabelScheme raw.rowLabelScheme
    rowLabelStart := (clampInt raw.rowLabelStart 0 (2 * maxRows) 0).toNat
    removedSeats := raw.removedSeats
    accessibleSeats := raw.accessibleSeats }
  -- An offset that the spec sets itself is never overridden.
  if raw.rowAlignment = some .center ∧ s.rowXOffset = 0 then
    { s with rowXOffset := derivedCenterOffset s }
  else s

/-- `str(raw.get("name") or "").strip() or f"Section {index + 1}"`. -/
def sectionName (text : Text) (raw : RawSection) (index : Nat) : String :=
  if text.strip raw.name = "" then s!"Section {index + 1}" else text.strip raw.name

/-- The validation loop, with the index of the next entry and the names seen. -/
def validateSections (text : Text) : Nat → List String → List (Option RawSection) →
    List SectionSpec
  | _, _, [] => []
  | index, seen, none :: rest => validateSections text (index + 1) seen rest
  | index, seen, some raw :: rest =>
    let base := sectionName text raw index
    let name := freshName text seen base (seen.length + 1) 2 base
    validateSection raw name :: validateSections text (index + 1) (text.lower name :: seen) rest

/-- `validate_chart_spec`; `none` is a spec that is not an object. -/
def validateChartSpec (text : Text) (spec : Option RawSpec) : Except ServiceError ChartSpec :=
  match spec with
  | none => .error (.chartParsing "The parsed result wasn't a chart spec.")
  | some spec =>
    match validateSections text 0 [] ((spec.sections.getD []).take maxSections) with
    | [] => .error (.chartParsing "No seating sections could be identified in this file.")
    | sections => .ok {
        chartName := takeChars 255
          (if text.strip spec.chartName = "" then "Parsed chart" else text.strip spec.chartName)
        sections := sections }

/-! ### The chart -/

/-- The parameters `build_chart_from_spec` passes to `Section.objects.create`. -/
def specParams (s : SectionSpec) : SectionParams :=
  { sectionDefaults with
    rows := s.rows
    seatsPerRow := s.seatsPerRow
    originX := s.originX
    originY := s.originY
    rotation := s.rotation
    seatPitch := s.seatPitch
    rowPitch := s.rowPitch
    arcRadius := s.arcRadius
    offsetMode := s.offsetMode
    rowXOffset := s.rowXOffset
    altRowSeatDelta := s.altRowSeatDelta
    numberingScheme := s.numberingScheme
    rowLabelScheme := s.rowLabelScheme
    rowLabelStart := s.rowLabelStart
    removedSeats := s.removedSeats
    accessibleSeats := s.accessibleSeats }

/-- The row of a section of the spec. -/
def specSection (organization chart ordering : Nat) (s : SectionSpec) (id : Nat) : Section where
  id := id
  organization := organization
  chart := chart
  name := s.name
  ordering := ordering
  tier := s.tier
  params := specParams s

/-- One turn of the loop: create the section, then generate its seats. -/
def buildSection (trig : Trig) (db : Db) (organization chart ordering : Nat) (s : SectionSpec) :
    Except ServiceError Db :=
  if (sectionsOf db chart).any (·.name == s.name) then
    .error (.integrity "unique_section_name_per_chart")
  else
    let section_ := specSection organization chart ordering s db.sections.nextId
    let p := section_.params
    generateSeats trig
      { db with sections := db.sections.insert (specSection organization chart ordering s) }
        section_
      (computeRowCounts p.rows p.seatsPerRow p.offsetMode p.altRowSeatDelta) (fun _ => [])
      p.removedSeats p.accessibleSeats false

/-- The loop over the sections of the spec. -/
def buildSections (trig : Trig) (db : Db) (organization chart : Nat) :
    Nat → List SectionSpec → Except ServiceError Db
  | _, [] => .ok db
  | ordering, s :: rest =>
    match buildSection trig db organization chart ordering s with
    | .error e => .error e
    | .ok db => buildSections trig db organization chart (ordering + 1) rest

/-- Fill a chart with the sections of the spec. -/
def fillFromSpec (trig : Trig) (db : Db) (chart : SeatingChart) (spec : ChartSpec) :
    Result SeatingChart :=
  match buildSections trig db chart.organization chart.id 0 spec.sections with
  | .error e => .error e
  | .ok db => .ok (db, chart)

/-- `(name or spec["chart_name"]).strip()[:255] or "Parsed chart"`. -/
def specChartName (text : Text) (spec : ChartSpec) (name : Option String) : String :=
  let given := match name with
    | some n => if n = "" then spec.chartName else n
    | none => spec.chartName
  let short := takeChars 255 (text.strip given)
  if short = "" then "Parsed chart" else short

/-- `build_chart_from_spec`. -/
def buildChartFromSpec (trig : Trig) (text : Text) (db : Db) (venue : Venue)
    (spec : Option RawSpec) (name : Option String) (replace : Bool) : Result SeatingChart :=
  match validateChartSpec text spec with
  | .error e => .error e
  | .ok spec =>
    let chartName := specChartName text spec name
    match db.seatingCharts.rows.find? fun c =>
        c.organization == venue.organization && c.venue == venue.id && c.name == chartName with
    | some existing =>
      if !replace then
        .error (.chartParsing
          s!"A seating chart named {reprName chartName} already exists on {venue.name} (id={existing.id}). Pass replace=True (or pick another name) to overwrite it.")
      else if liveChartTickets db existing.id ≠ [] then
        .error (.chartParsing
          s!"Chart {reprName chartName} (id={existing.id}) has {(liveChartTickets db existing.id).length} seat(s) with a live ticket issued; refusing to overwrite it. Void/refund those tickets first, or import under a different name.")
      else
        match deleteSections db ((sectionsOf db existing.id).map (·.id)) with
        | .error e => .error e
        | .ok db => fillFromSpec trig db existing spec
    | none =>
      fillFromSpec trig
        { db with seatingCharts := db.seatingCharts.insert (newChart venue chartName) }
        (newChart venue chartName db.seatingCharts.nextId) spec

end BoxOffice
