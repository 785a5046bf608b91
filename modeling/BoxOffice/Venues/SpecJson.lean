import BoxOffice.Venues.ChartParsing
import BoxOffice.Venues.FloatSeats

namespace BoxOffice

open Relational Python

/-!
# Venues — a parsed spec, from JSON to a chart

`validate_chart_spec` and `build_chart_from_spec` on the value that `json.loads` returned, with
Python's conversions and floats.  `ChartParsing` has the same functions on converted data.

* `normalizeSection` — one turn of the validation loop; a conversion may raise what `_clamp_int`
  and `_as_float` do not catch;
* `OnFloats.validateChartSpec` — the loop, with the names that were seen;
* `OnFloats.buildChartFromSpec` — the chart, in one transaction;
* `ChartSpecJson.json` — the dictionary that a validated spec is.
-/

/-- The text functions of the interpreter. -/
def builtinText {F : Type} (py : Builtins F) : Text := ⟨py.lower, py.chars.strip⟩

/-- One validated section. -/
structure SectionSpecJson (F : Type) where
  name : String
  tier : String
  rows : Nat
  seatsPerRow : Nat
  originX : F
  originY : F
  rotation : F
  seatPitch : F
  rowPitch : F
  arcRadius : Option F
  offsetMode : OffsetMode
  rowXOffset : F
  altRowSeatDelta : Int
  numberingScheme : NumberingScheme
  rowLabelScheme : RowLabelScheme
  rowLabelStart : Nat
  removedSeats : List SeatIdentity
  accessibleSeats : List SeatIdentity
  rowAlignment : RowAlignment
deriving Repr, DecidableEq

/-- A validated spec. -/
structure ChartSpecJson (F : Type) where
  chartName : String
  sections : List (SectionSpecJson F)
deriving Repr, DecidableEq

section Spec

variable {F : Type} (py : Builtins F)

/-! ### Normalisation -/

/-- `_clamp_int`. -/
def clampIntJson (value : Json F) (low high default : Int) : Except PyError Int :=
  match value.toInt py with
  | .error e => if e.Conversion then .ok default else .error e
  | .ok n => .ok (max low (min high n))

/-- `_as_float`. -/
def asFloat (value : Json F) (default : F) : Except PyError F :=
  match value.toFloat py with
  | .error e => if e.Conversion then .ok default else .error e
  | .ok x => .ok x

/-- `_as_float(value, 1.0) or 1.0`. -/
def asPitchJson (value : Json F) : Except PyError F := do
  let x ← asFloat py value (py.lit 1)
  return if py.isZero x then py.lit 1 else x

/-- The radius: a number that is not below or at zero, or none. -/
def asRadiusJson : Json F → Except PyError (Option F)
  | .null => .ok none
  | value => do
    let x ← asFloat py value (py.lit 0)
    return if py.le x (py.lit 0) then none else some x

/-- `value if value in choices else default`, where `choices` is a set. -/
def asChoice {α : Type} (pick : Option String → α) : Json F → Except PyError α
  | .str s => .ok (pick (some s))
  | value => if value.unhashable then .error .typeError else .ok (pick none)

def pickOffsetMode (s : Option String) : OffsetMode := asOffsetMode (s.map .ofText)

def pickNumberingScheme (s : Option String) : NumberingScheme := asNumberingScheme (s.map .ofText)

def pickRowLabelScheme (s : Option String) : RowLabelScheme := asRowLabelScheme (s.map .ofText)

/-- `alignment if alignment in ("edge", "center") else "edge"`. -/
def asAlignment : Json F → RowAlignment
  | .str "center" => .center
  | _ => .edge

/-- `_seat_identity_list`. -/
def seatIdentityList : Json F → List SeatIdentity
  | .list entries => entries.filterMap fun
    | .list [label, number] => some (label.text py, number.text py)
    | _ => none
  | _ => []

/-- `_derived_center_offset`. -/
def derivedCenterOffsetJson (s : SectionSpecJson F) : F :=
  if s.offsetMode = .alternating then py.lit 0
  else
    let labels := generateRowLabels s.rows s.rowLabelScheme s.rowLabelStart
    let widths := labels.map fun label =>
      s.seatsPerRow - s.removedSeats.countP fun i => i.1 == label
    match widths.zipIdx.filter fun row => 0 < row.1 with
    | first :: second :: rest =>
      let occupied := first :: second :: rest
      let widest := widestRow first (second :: rest)
      -- The front row is the widest: anchor on the last one.
      let anchor := if widest.2 = first.2 then (second :: rest).getLastD second else widest
      let slope := py.div (py.ofInt ((anchor.1 : Int) - first.1)) (py.ofInt ((anchor.2 : Int) - first.2))
      let fitting := occupied.countP fun row =>
        py.le (py.abs (py.sub (py.ofInt row.1) (py.add (py.ofInt first.1)
          (py.mul slope (py.ofInt ((row.2 : Int) - first.2)))))) (py.lit (5 / 4))
      if py.lt (py.ofInt fitting) (py.mul (py.lit (3 / 4)) (py.ofInt occupied.length)) then py.lit 0
      else py.max (py.lit (-2))
        (py.min (py.lit 2) (py.div (py.mul (py.neg s.seatPitch) slope) (py.lit 2)))
    | _ => py.lit 0

/-- `center` alignment folded into the offset; an offset that the spec sets itself is never
    overridden. -/
def foldAlignment (s : SectionSpecJson F) : SectionSpecJson F :=
  if s.rowAlignment = .center ∧ py.isZero s.rowXOffset then
    { s with rowXOffset := derivedCenterOffsetJson py s }
  else s

/-- One turn of the validation loop, but for the name. -/
def normalizeSection (raw : List (String × Json F)) (name : String) :
    Except PyError (SectionSpecJson F) := do
  let arcRadius ← asRadiusJson py (getKey raw "arc_radius")
  let rows ← clampIntJson py (getKey raw "rows") 1 maxRows 4
  let seatsPerRow ← clampIntJson py (getKey raw "seats_per_row") 1 maxSeatsPerRow 8
  let originX ← asFloat py (getKey raw "origin_x") (py.lit 0)
  let originY ← asFloat py (getKey raw "origin_y") (py.lit 0)
  let rotation ← asFloat py (getKey raw "rotation") (py.lit 0)
  let seatPitch ← asPitchJson py (getKey raw "seat_pitch")
  let rowPitch ← asPitchJson py (getKey raw "row_pitch")
  let offsetMode ← asChoice pickOffsetMode (getKey raw "offset_mode")
  let rowXOffset ← asFloat py (getKey raw "row_x_offset") (py.lit 0)
  let altRowSeatDelta ← clampIntJson py (getKey raw "alt_row_seat_delta")
    (-maxSeatsPerRow) maxSeatsPerRow 0
  let numberingScheme ← asChoice pickNumberingScheme (getKey raw "numbering_scheme")
  let rowLabelScheme ← asChoice pickRowLabelScheme (getKey raw "row_label_scheme")
  let rowLabelStart ← clampIntJson py (getKey raw "row_label_start") 0 (2 * maxRows) 0
  return foldAlignment py {
    name := takeChars 255 name
    tier := takeChars 100 ((getKey raw "tier").textOrEmpty py)
    rows := rows.toNat
    seatsPerRow := seatsPerRow.toNat
    originX, originY, rotation, seatPitch, rowPitch, arcRadius, offsetMode, rowXOffset
    altRowSeatDelta, numberingScheme, rowLabelScheme
    rowLabelStart := rowLabelStart.toNat
    removedSeats := seatIdentityList py (getKey raw "removed_seats")
    accessibleSeats := seatIdentityList py (getKey raw "accessible_seats")
    rowAlignment := asAlignment (getKey raw "row_alignment") }

/-- `str(raw.get("name") or "").strip() or f"Section {index + 1}"`. -/
def sectionNameJson (raw : List (String × Json F)) (index : Nat) : String :=
  let stripped := py.chars.strip ((getKey raw "name").textOrEmpty py)
  if stripped = "" then s!"Section {index + 1}" else stripped

/-- The name of the next section, whatever was seen. -/
def nextName (raw : List (String × Json F)) (index : Nat) (seen : List String) : String :=
  let base := sectionNameJson py raw index
  freshName (builtinText py) seen base (seen.length + 1) 2 base

/-- `str(spec.get("chart_name") or "").strip() or "Parsed chart"`. -/
def givenChartName (spec : List (String × Json F)) : String :=
  let stripped := py.chars.strip ((getKey spec "chart_name").textOrEmpty py)
  if stripped = "" then "Parsed chart" else stripped

namespace OnFloats

/-- The validation loop, with the index of the next entry and the names seen. -/
def validateSections : Nat → List String → List (Json F) →
    Except PyError (List (SectionSpecJson F))
  | _, _, [] => .ok []
  | index, seen, .object raw :: rest => do
    let name := nextName py raw index seen
    let s ← normalizeSection py raw name
    return s :: (← validateSections (index + 1) (py.lower name :: seen) rest)
  | index, seen, _ :: rest => validateSections (index + 1) seen rest

/-- `validate_chart_spec`. -/
def validateChartSpec : Json F → Except Failure (ChartSpecJson F)
  | .object spec =>
    match getKey spec "sections" with
    | .list rawSections =>
      match validateSections py 0 [] (rawSections.take maxSections) with
      | .error e => .error (.raised e)
      | .ok [] => .error (.service
          (.chartParsing "No seating sections could be identified in this file."))
      | .ok sections => .ok { chartName := takeChars 255 (givenChartName py spec), sections }
    | _ => .error (.service
        (.chartParsing "No seating sections could be identified in this file."))
  | _ => .error (.service (.chartParsing "The parsed result wasn't a chart spec."))

end OnFloats

/-! ### The dictionary of a validated spec -/

/-- `[[row_label, number], …]`. -/
def identitiesJson (ids : List SeatIdentity) : Json F :=
  .list (ids.map fun i => .list [.str i.1, .str i.2])

def RowAlignment.text : RowAlignment → String
  | .edge => "edge"
  | .center => "center"

/-- The entries of a validated section. -/
def SectionSpecJson.entries (s : SectionSpecJson F) : List (String × Json F) :=
  [("name", .str s.name), ("tier", .str s.tier), ("rows", .int s.rows),
    ("seats_per_row", .int s.seatsPerRow), ("origin_x", .float s.originX),
    ("origin_y", .float s.originY), ("rotation", .float s.rotation),
    ("seat_pitch", .float s.seatPitch), ("row_pitch", .float s.rowPitch),
    ("arc_radius", s.arcRadius.elim .null .float), ("offset_mode", .str s.offsetMode.text),
    ("row_x_offset", .float s.rowXOffset), ("alt_row_seat_delta", .int s.altRowSeatDelta),
    ("numbering_scheme", .str s.numberingScheme.text),
    ("row_label_scheme", .str s.rowLabelScheme.text), ("row_label_start", .int s.rowLabelStart),
    ("removed_seats", identitiesJson s.removedSeats),
    ("accessible_seats", identitiesJson s.accessibleSeats),
    ("row_alignment", .str s.rowAlignment.text)]

/-- The dictionary of a validated spec. -/
def ChartSpecJson.json (spec : ChartSpecJson F) : Json F :=
  .object [("chart_name", .str spec.chartName),
    ("sections", .list (spec.sections.map fun s => .object s.entries))]

end Spec

end BoxOffice
