import BoxOffice.Venues.Columns
import BoxOffice.Venues.Roster

namespace BoxOffice

open Relational Python

/-!
# Venues — the seat generator on floats

`venues.generation` as Python computes it: on floating-point numbers, where the sine of an
infinity raises, and with rows that the database may refuse.

* `OnFloats.seatXy` — the geometry, formula by formula; `OnFloats.buildSeats` the seats it makes;
* `bulkCreateSeats`, `OnFloats.generateSeats`, `OnFloats.repositionSeats` — what is written;
* `buildSeats_exact` — on exact numbers the seats are those of `buildSeats`.
-/

/-- A section in memory: its row when it was read, and its parameters now. -/
structure SectionObject (F : Type) where
  row : Section
  params : SectionParams F

namespace OnFloats

/-! ### Geometry -/

section Geometry

variable {F : Type} (py : Floats F) (p : SectionParams F)

/-- `_rotate`. -/
def rotate (x y degrees : F) : Except PyError (F × F) :=
  if py.isZero degrees then .ok (x, y)
  else do
    let theta := py.radians degrees
    let cosT ← py.cos? theta
    let sinT ← py.sin? theta
    return (py.sub (py.mul x cosT) (py.mul y sinT), py.add (py.mul x sinT) (py.mul y cosT))

/-- `_row_x_offset`. -/
def rowXOffset (rowIndex : Nat) : F :=
  if p.offsetMode = .alternating then if rowIndex % 2 = 1 then p.rowXOffset else py.lit 0
  else py.mul (py.ofInt rowIndex) p.rowXOffset

/-- `_grid_or_raked_local`. -/
def gridOrRakedLocal (rowIndex seatIndex : Nat) : F × F :=
  (py.add (py.mul (py.ofInt seatIndex) p.seatPitch) (rowXOffset py p rowIndex),
    py.mul (py.ofInt rowIndex) p.rowPitch)

/-- The radius of a row and the angle of a seat in it, in `_fanned_local`. -/
def fannedRadius (arcRadius : F) (rowIndex : Nat) : F :=
  py.add arcRadius (py.mul (py.ofInt rowIndex) p.rowPitch)

def fannedTheta (arcRadius : F) (rowIndex seatIndex rowSeatCount : Nat) : F :=
  let radius := fannedRadius py p arcRadius rowIndex
  let angleStep := if py.isZero radius then py.lit 0 else py.div p.seatPitch radius
  let centerOffset := py.div (py.ofInt ((rowSeatCount : Int) - 1)) (py.ofInt 2)
  py.mul (py.sub (py.ofInt seatIndex) centerOffset) angleStep

/-- `_fanned_local`. -/
def fannedLocal (arcRadius : F) (rowIndex seatIndex rowSeatCount : Nat) :
    Except PyError (F × F) := do
  let radius := fannedRadius py p arcRadius rowIndex
  let theta := fannedTheta py p arcRadius rowIndex seatIndex rowSeatCount
  let sinT ← py.sin? theta
  let cosT ← py.cos? theta
  return (py.add (py.mul radius sinT) (rowXOffset py p rowIndex),
    py.sub (py.mul radius cosT) arcRadius)

/-- `_rotation_pivot_local`. -/
def rotationPivotLocal : F × F :=
  match p.pivotMode with
  | .origin => (py.lit 0, py.lit 0)
  | .custom => (p.pivotX, p.pivotY)
  | _ => (py.div (py.mul (py.ofInt (p.seatsPerRow - 1 : Nat)) p.seatPitch) (py.lit 2),
      py.div (py.mul (py.ofInt (p.rows - 1 : Nat)) p.rowPitch) (py.lit 2))

/-- The radius of a curved section: one that is set and not zero. -/
def curvature : Option F := p.arcRadius.filter fun r => !py.isZero r

/-- The point of a seat before its section is turned. -/
def localXy (rowIndex seatIndex rowSeatCount : Nat) : Except PyError (F × F) :=
  match curvature py p with
  | some r => fannedLocal py p r rowIndex seatIndex rowSeatCount
  | none => .ok (gridOrRakedLocal py p rowIndex seatIndex)

/-- `_seat_xy`. -/
def seatXy (rowIndex seatIndex rowSeatCount : Nat) : Except PyError (F × F) := do
  let point ← localXy py p rowIndex seatIndex rowSeatCount
  let pivot := rotationPivotLocal py p
  let rel ← rotate py (py.sub point.1 pivot.1) (py.sub point.2 pivot.2) p.rotation
  return (py.add (py.add p.originX pivot.1) rel.1, py.add (py.add p.originY pivot.2) rel.2)

end Geometry

/-! ### Building -/

/-- A seat of the two loops of `_build_seats`: its row, its index in it and its number. -/
structure Place where
  rowIndex : Nat
  label : String
  seatCount : Nat
  seatIndex : Nat
  number : Nat
deriving Repr, DecidableEq

def Place.identity (s : Place) : SeatIdentity := (s.label, toString s.number)

section Build

variable {F : Type} (py : Floats F) (p : SectionParams F)

/-- The seats of one row. -/
def rowPlaces (rowIndex : Nat) (label : String) (seatCount : Nat) : List Place :=
  (generateSeatNumbers seatCount p.numberingScheme rowIndex).zipIdx.map fun (number, seatIndex) =>
    ⟨rowIndex, label, seatCount, seatIndex, number⟩

/-- The seats that are not removed, row by row. -/
def places (rowCounts : List Nat) (removedIds : List SeatIdentity) : List Place :=
  let labels := generateRowLabels rowCounts.length p.rowLabelScheme p.rowLabelStart
  ((labels.zip rowCounts).zipIdx.map fun ((label, seatCount), rowIndex) =>
    (rowPlaces p rowIndex label seatCount).filter fun s => !removedIds.contains s.identity).flatten

/-- The seat at a place. -/
def seatDraft (accessibleIds : List SeatIdentity) (s : Place) : Except PyError (SeatDraft F) := do
  let xy ← seatXy py p s.rowIndex s.seatIndex s.seatCount
  return {
    rowLabel := s.label
    number := toString s.number
    x := xy.1
    y := xy.2
    isAccessible := accessibleIds.contains s.identity }

/-- `_build_seats`, without positional accessibility. -/
def buildSeats (rowCounts : List Nat) (removedIds accessibleIds : List SeatIdentity) :
    Except PyError (List (SeatDraft F)) :=
  (places p rowCounts removedIds).mapM (seatDraft py p accessibleIds)

end Build

end OnFloats

/-! ### Writing -/

section Write

variable {F : Type} {py : Builtins F} (cols : Columns py)

/-- The coordinates of a seat as their columns hold them. -/
def storeXy (d : SeatDraft F) : Except Failure SeatDraft := do
  return {
    rowLabel := d.rowLabel
    number := d.number
    x := ← cols.storeFloat "x" d.x
    y := ← cols.storeFloat "y" d.y
    isAccessible := d.isAccessible }

/-- A new seat as its columns hold it. -/
def storeSeat (d : SeatDraft F) : Except Failure SeatDraft := do
  let _ ← cols.storeText 10 "row_label" d.rowLabel
  let _ ← cols.storeText 10 "number" d.number
  storeXy cols d

/-- `Seat.objects.bulk_create`. -/
def bulkCreateSeats (db : Db) (row : Section) (drafts : List (SeatDraft F)) : Except Failure Db := do
  let stored ← drafts.mapM (storeSeat cols)
  if ((seatsOf db row.id).map Seat.identity ++ stored.map SeatDraft.identity).Nodup then
    return { db with seats := db.seats.insertMany (newSeat row) stored (newSeat_id row) }
  else .error (.service (.integrity "unique_seat_per_section"))

namespace OnFloats

variable (db : Db) (section_ : SectionObject F) (rowCounts : List Nat)
  (removedIds accessibleIds : List SeatIdentity)

/-- Build the seats of a section and create them. -/
def fillSeats : Except Failure Db := do
  let drafts ← raised (buildSeats py.toFloats section_.params rowCounts removedIds accessibleIds)
  bulkCreateSeats cols db section_.row drafts

/-- `generate_seats`. -/
def generateSeats (replace : Bool) : Except Failure Db :=
  let existing := seatsOf db section_.row.id
  if existing = [] then fillSeats cols db section_ rowCounts removedIds accessibleIds
  else if liveTicketSeats db section_.row.id ≠ [] then
    .error (.service (.seatGeneration
      s!"Section {reprName section_.row.name} has {(liveTicketSeats db section_.row.id).length} seat(s) with a live ticket issued -- regenerating would orphan them. Void/refund those tickets first, or build a new section instead."))
  else if !replace then
    .error (.service (.seatGeneration
      s!"Section {reprName section_.row.name} already has {existing.length} seat(s). Pass replace=True to delete and regenerate them (safe -- no live tickets exist)."))
  else
    match deleteSeats db (existing.map (·.id)) with
    | .error e => .error (.service e)
    | .ok db => fillSeats cols db section_ rowCounts removedIds accessibleIds

/-- Have these places and the stored seats the same identities? -/
def sameIdentities (prospective : List SeatIdentity) (existing : List Seat) : Bool :=
  (prospective.all fun i => existing.any fun s => s.identity == i) &&
    existing.all fun s => prospective.any fun i => i == s.identity

/-- The seats of a section, moved to where their drafts are. -/
def moveSeats (db : Db) (section_ : Nat) (drafts : List SeatDraft) : Db :=
  { db with
    seats := db.seats.update (fun s => s.section_ == section_) (reposition drafts)
      (fun s => by unfold reposition; split <;> rfl) }

/-- `reposition_seats`. -/
def repositionSeats : Except Failure Db := do
  let prospective ← raised
    (buildSeats py.toFloats section_.params rowCounts removedIds accessibleIds)
  if !sameIdentities (prospective.map SeatDraft.identity) (seatsOf db section_.row.id) then
    .error (.service (.seatRosterChanged
      s!"Section {reprName section_.row.name}'s seat roster changed -- cannot reposition in place."))
  else do
    let stored ← prospective.mapM (storeXy cols)
    return moveSeats db section_.row.id stored

end OnFloats

end Write

/-! ### Exact numbers -/

section Exact

/-- Rational numbers as floats, without rounding. -/
def exactFloats (trig : Trig) : Floats ℚ where
  lit q := q
  ofInt n := n
  overflows _ := false
  toInt q := .ok (q.num.tdiv q.den)
  add := (· + ·)
  sub := (· - ·)
  mul := (· * ·)
  div := (· / ·)
  neg q := -q
  abs q := |q|
  radians := trig.radians
  sin := trig.sin
  cos := trig.cos
  lt a b := decide (a < b)
  le a b := decide (a ≤ b)
  isZero q := decide (q = 0)
  isInfinite _ := false
  isZero_one := by decide +kernel

variable {trig : Trig} {p : SectionParams}

/-- On exact numbers the rotation is that of the rational model. -/
theorem rotate_exact (x y degrees : ℚ) :
    OnFloats.rotate (exactFloats trig) x y degrees = .ok (rotate trig x y degrees) := by
  have hzero : (exactFloats trig).isZero degrees = true ↔ degrees = 0 := decide_eq_true_iff
  unfold OnFloats.rotate rotate
  by_cases h : degrees = 0
  · rw [if_pos h, if_pos (hzero.mpr h)]
  · rw [if_neg h, if_neg (mt hzero.mp h)]
    rfl

/-- So is the fan. -/
theorem fannedLocal_exact (arcRadius : ℚ) (rowIndex seatIndex rowSeatCount : Nat) :
    OnFloats.fannedLocal (exactFloats trig) p arcRadius rowIndex seatIndex rowSeatCount
      = .ok (fannedLocal trig p arcRadius rowIndex seatIndex rowSeatCount) := by
  have hcenter : (((rowSeatCount : Int) - 1 : Int) : ℚ) / ((2 : Int) : ℚ)
      = ((rowSeatCount : ℚ) - 1) / 2 := by push_cast; rfl
  have htheta : OnFloats.fannedTheta (exactFloats trig) p arcRadius rowIndex seatIndex rowSeatCount
      = (seatIndex - ((rowSeatCount : ℚ) - 1) / 2)
        * (if arcRadius + rowIndex * p.rowPitch = 0 then 0
          else p.seatPitch / (arcRadius + rowIndex * p.rowPitch)) := by
    rw [← hcenter]
    unfold OnFloats.fannedTheta OnFloats.fannedRadius exactFloats
    simp
  unfold OnFloats.fannedLocal fannedLocal
  rw [htheta]
  rfl

/-- So is the pivot. -/
theorem rotationPivotLocal_exact :
    OnFloats.rotationPivotLocal (exactFloats trig) p = rotationPivotLocal p := by
  unfold OnFloats.rotationPivotLocal rotationPivotLocal
  cases p.pivotMode <;> rfl

/-- **The coordinates** of a seat. -/
theorem seatXy_exact (rowIndex seatIndex rowSeatCount : Nat) :
    OnFloats.seatXy (exactFloats trig) p rowIndex seatIndex rowSeatCount
      = .ok (seatXy trig p rowIndex seatIndex rowSeatCount) := by
  unfold OnFloats.seatXy seatXy OnFloats.localXy OnFloats.curvature
  rw [rotationPivotLocal_exact]
  cases p.arcRadius with
  | none =>
    simp only [Option.filter_none, bind, Except.bind]
    rw [rotate_exact]
    rfl
  | some r =>
    by_cases hr : r = 0
    · have hzero : (exactFloats trig).isZero r = true := decide_eq_true hr
      simp only [Option.filter_some, hzero, Bool.not_true, Bool.false_eq_true, if_false,
        if_pos hr, bind, Except.bind]
      rw [rotate_exact]
      rfl
    · have hzero : (exactFloats trig).isZero r = false := decide_eq_false hr
      simp only [Option.filter_some, hzero, Bool.not_false, if_true, if_neg hr,
        fannedLocal_exact, bind, Except.bind]
      rw [rotate_exact]
      rfl

/-- A total function maps a list without failing. -/
theorem mapM_total {ε α β : Type} (f : α → β) (l : List α) :
    l.mapM (fun a => (.ok (f a) : Except ε β)) = .ok (l.map f) := by
  induction l with
  | nil => rfl
  | cons a rest ih => rw [List.mapM_cons, ih]; rfl

/-- **The seats.**  On exact numbers the generator is the one of `Generation`. -/
theorem buildSeats_exact (rowCounts : List Nat) (removedIds accessibleIds : List SeatIdentity) :
    OnFloats.buildSeats (exactFloats trig) p rowCounts removedIds accessibleIds
      = .ok (buildSeats trig p rowCounts (fun _ => []) removedIds accessibleIds) := by
  have hdraft : OnFloats.seatDraft (exactFloats trig) p accessibleIds = fun s =>
      .ok (let xy := seatXy trig p s.rowIndex s.seatIndex s.seatCount
        { rowLabel := s.label, number := toString s.number, x := xy.1, y := xy.2,
          isAccessible := accessibleIds.contains s.identity }) := by
    funext s
    unfold OnFloats.seatDraft
    rw [seatXy_exact]
    rfl
  unfold OnFloats.buildSeats OnFloats.places buildSeats
  rw [hdraft, mapM_total]
  dsimp only
  rw [List.map_flatten, List.map_map]
  refine congrArg (fun l => Except.ok (List.flatten l)) (List.map_congr_left ?_)
  rintro ⟨⟨label, seatCount⟩, rowIndex⟩ -
  unfold buildRow OnFloats.rowPlaces
  simp only [Function.comp_apply]
  rw [List.filter_map, List.map_map, List.filter_map]
  rfl

end Exact

end BoxOffice
