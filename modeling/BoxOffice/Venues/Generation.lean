import BoxOffice.Cascade
import BoxOffice.Events.Pricing
import BoxOffice.Orders.Void
import Mathlib.Algebra.Field.Rat

namespace BoxOffice

open Relational

/-!
# Venues — the seat generator

The functions of `venues.generation` that turn the layout parameters of a section into seats.

* `buildSeats` computes the seats a section should have: labels, numbers and coordinates;
* `repositionSeats` moves the stored seats in place when the roster is the same;
* `generateSeats` replaces them, and refuses while one of them is on a live ticket.

The seats are computed in any ordered field, with the trigonometry of the curved rows as a
parameter; the stored coordinates are exact rationals.
-/

/-- `math.radians`, `math.sin` and `math.cos`. -/
structure Trig (K : Type := ℚ) where
  radians : K → K
  sin : K → K
  cos : K → K

/-- Trigonometry that is exact at angle zero. -/
def flatTrig : Trig := ⟨fun _ => 0, fun _ => 0, fun _ => 1⟩

/-! ### Labels and numbers -/

/-- `_BASE_LETTERS_SKIP_IO`. -/
def baseLettersSkipIo : List Char := "ABCDEFGHJKLMNPQRSTUVWXYZ".toList

/-- `_BASE_LETTERS_ALL`. -/
def baseLettersAll : List Char := "ABCDEFGHIJKLMNOPQRSTUVWXYZ".toList

/-- The alphabet of a scheme. -/
def rowLetters : RowLabelScheme → List Char
  | .allLetters => baseLettersAll
  | _ => baseLettersSkipIo

/-- The label at place `i` of a scheme's sequence: `A` … `Z`, `AA`, `BB`, …. -/
def rowLabel (letters : List Char) (i : Nat) : String :=
  String.ofList (List.replicate (i / letters.length + 1) (letters.getD (i % letters.length) 'A'))

/-- `generate_row_labels`. -/
def generateRowLabels (count : Nat) (scheme : RowLabelScheme) (start : Nat) : List String :=
  (List.range count).map fun k => rowLabel (rowLetters scheme) (start + k)

/-- `generate_seat_numbers`. -/
def generateSeatNumbers (seatCount : Nat) (scheme : NumberingScheme) (rowIndex : Nat) :
    List Nat :=
  (List.range seatCount).map fun i =>
    match scheme with
    | .oddDescLeft => 2 * (seatCount - i) - 1
    | .evenAscRight => 2 * (i + 1)
    | .hundreds => (rowIndex + 1) * 100 + i + 1
    | .hundredsFlat => 100 + i + 1
    | _ => i + 1

/-- `compute_row_counts`. -/
def computeRowCounts (rows seatsPerRow : Nat) (offsetMode : OffsetMode)
    (altRowSeatDelta : Int) : List Nat :=
  (List.range rows).map fun rowIndex =>
    let n : Int := if offsetMode = .alternating ∧ rowIndex % 2 = 1
      then seatsPerRow + altRowSeatDelta else seatsPerRow
    (max 1 n).toNat

/-! ### Geometry -/

section Geometry

/-- The literal of the midpoints, in every field. -/
instance atLeastTwo_two : Nat.AtLeastTwo 2 := ⟨le_refl 2⟩

variable {K : Type} [Field K] [DecidableEq K] (trig : Trig K) (p : SectionParams K)

/-- `_rotate`. -/
def rotate (x y degrees : K) : K × K :=
  if degrees = 0 then (x, y)
  else
    let theta := trig.radians degrees
    (x * trig.cos theta - y * trig.sin theta, x * trig.sin theta + y * trig.cos theta)

/-- `_row_x_offset`. -/
def rowXOffset (rowIndex : Nat) : K :=
  if p.offsetMode = .alternating then if rowIndex % 2 = 1 then p.rowXOffset else 0
  else rowIndex * p.rowXOffset

/-- `_grid_or_raked_local`. -/
def gridOrRakedLocal (rowIndex seatIndex : Nat) : K × K :=
  (seatIndex * p.seatPitch + rowXOffset p rowIndex, rowIndex * p.rowPitch)

/-- `_fanned_local`. -/
def fannedLocal (arcRadius : K) (rowIndex seatIndex rowSeatCount : Nat) : K × K :=
  let radius := arcRadius + rowIndex * p.rowPitch
  let angleStep := if radius = 0 then 0 else p.seatPitch / radius
  let centerOffset : K := ((rowSeatCount : K) - 1) / 2
  let theta := (seatIndex - centerOffset) * angleStep
  (radius * trig.sin theta + rowXOffset p rowIndex, radius * trig.cos theta - arcRadius)

/-- `_rotation_pivot_local`. -/
def rotationPivotLocal : K × K :=
  match p.pivotMode with
  | .origin => (0, 0)
  | .custom => (p.pivotX, p.pivotY)
  | _ => (((p.seatsPerRow - 1 : Nat) : K) * p.seatPitch / 2,
      ((p.rows - 1 : Nat) : K) * p.rowPitch / 2)

/-- `_seat_xy`. -/
def seatXy (rowIndex seatIndex rowSeatCount : Nat) : K × K :=
  let point := match p.arcRadius with
    | some r =>
      if r = 0 then gridOrRakedLocal p rowIndex seatIndex
      else fannedLocal trig p r rowIndex seatIndex rowSeatCount
    | none => gridOrRakedLocal p rowIndex seatIndex
  let pivot := rotationPivotLocal p
  let rel := rotate trig (point.1 - pivot.1) (point.2 - pivot.2) p.rotation
  (p.originX + pivot.1 + rel.1, p.originY + pivot.2 + rel.2)

/-! ### Building -/

/-- A seat that is not stored yet. -/
structure SeatDraft (K : Type := ℚ) where
  rowLabel : String
  number : String
  x : K
  y : K
  isAccessible : Bool
deriving Repr, DecidableEq

/-- `(row_label, number)` of a draft. -/
def SeatDraft.identity (d : SeatDraft K) : SeatIdentity := (d.rowLabel, d.number)

/-- `(row_label, number)` of a stored seat. -/
def Seat.identity (s : Seat) : SeatIdentity := (s.rowLabel, s.number)

/-- The seats of one row.  `rowAccessible` lists 1-based positions. -/
def buildRow (rowAccessible : List Nat) (removedIds accessibleIds : List SeatIdentity)
    (rowIndex : Nat) (label : String) (seatCount : Nat) : List (SeatDraft K) :=
  let drafts := (generateSeatNumbers seatCount p.numberingScheme rowIndex).zipIdx.map
    fun (number, seatIndex) =>
      let xy := seatXy trig p rowIndex seatIndex seatCount
      { rowLabel := label, number := toString number, x := xy.1, y := xy.2,
        isAccessible := rowAccessible.contains (seatIndex + 1)
          || accessibleIds.contains (label, toString number) }
  drafts.filter fun d => !removedIds.contains d.identity

/-- `_build_seats`.  `accessible` gives the accessible positions of a row. -/
def buildSeats (rowCounts : List Nat) (accessible : Nat → List Nat)
    (removedIds accessibleIds : List SeatIdentity) : List (SeatDraft K) :=
  let labels := generateRowLabels rowCounts.length p.rowLabelScheme p.rowLabelStart
  ((labels.zip rowCounts).zipIdx.map fun ((label, seatCount), rowIndex) =>
    buildRow trig p (accessible rowIndex) removedIds accessibleIds rowIndex label seatCount).flatten

end Geometry

/-- The stored seat of a draft. -/
def newSeat (section_ : Section) (d : SeatDraft) (id : Nat) : Seat where
  id := id
  organization := section_.organization
  section_ := section_.id
  rowLabel := d.rowLabel
  number := d.number
  x := d.x
  y := d.y
  isAccessible := d.isAccessible

/-- A new seat has the key it was given. -/
theorem newSeat_id (section_ : Section) (d : SeatDraft) (id : Nat) :
    (newSeat section_ d id).id = id :=
  rfl

/-! ### Writing -/

/-- `section.seats.all()`. -/
def seatsOf (db : Db) (section_ : Nat) : List Seat :=
  db.seats.rows.filter fun s => s.section_ == section_

/-- `repr` of a section's name, for the names that need no escape. -/
def reprName (name : String) : String := s!"'{name}'"

/-- The live tickets on the seats of a section. -/
def liveTicketSeats (db : Db) (section_ : Nat) : List Ticket :=
  db.tickets.rows.filter fun t =>
    t.seat.any (fun s => (seatsOf db section_).any fun x => x.id == s) && decide t.Live

/-- `generate_seats`. -/
def generateSeats (trig : Trig) (db : Db) (section_ : Section) (rowCounts : List Nat)
    (accessible : Nat → List Nat) (removedIds accessibleIds : List SeatIdentity)
    (replace : Bool) : Except ServiceError Db :=
  let existing := seatsOf db section_.id
  let drafts := buildSeats trig section_.params rowCounts accessible removedIds accessibleIds
  if existing = [] then .ok { db with seats := db.seats.insertMany (newSeat section_) drafts (newSeat_id section_) }
  else if liveTicketSeats db section_.id ≠ [] then
    .error (.seatGeneration
      s!"Section {reprName section_.name} has {(liveTicketSeats db section_.id).length} seat(s) with a live ticket issued -- regenerating would orphan them. Void/refund those tickets first, or build a new section instead.")
  else if !replace then
    .error (.seatGeneration
      s!"Section {reprName section_.name} already has {existing.length} seat(s). Pass replace=True to delete and regenerate them (safe -- no live tickets exist).")
  else
    match deleteSeats db (existing.map (·.id)) with
    | .error e => .error e
    | .ok db =>
      .ok { db with seats := db.seats.insertMany (newSeat section_) drafts (newSeat_id section_) }

/-- Do the drafts and the stored seats have the same identities? -/
def sameRoster (drafts : List SeatDraft) (existing : List Seat) : Bool :=
  (drafts.all fun d => existing.any fun s => s.identity == d.identity) &&
    existing.all fun s => drafts.any fun d => d.identity == s.identity

/-- The stored seat with the coordinates and the flag of its draft; of two drafts of one
    identity the later counts. -/
def reposition (drafts : List SeatDraft) (s : Seat) : Seat :=
  match (drafts.filter fun d => d.identity == s.identity).getLast? with
  | some d => { s with x := d.x, y := d.y, isAccessible := d.isAccessible }
  | none => s

/-- `reposition_seats`. -/
def repositionSeats (trig : Trig) (db : Db) (section_ : Section) (rowCounts : List Nat)
    (removedIds accessibleIds : List SeatIdentity) : Except ServiceError Db :=
  let prospective := buildSeats trig section_.params rowCounts (fun _ => []) removedIds
    accessibleIds
  if !sameRoster prospective (seatsOf db section_.id) then
    .error (.seatRosterChanged
      s!"Section {reprName section_.name}'s seat roster changed -- cannot reposition in place.")
  else .ok
    { db with
      seats := db.seats.update (fun s => s.section_ == section_.id) (reposition prospective)
        (fun s => by unfold reposition; split <;> rfl) }

example : generateRowLabels 3 .skipIo 12 = ["N", "P", "Q"] := by decide

example : generateSeatNumbers 4 .oddDescLeft 0 = [7, 5, 3, 1] := by decide

/-! ### What they write -/

section Spec

variable {trig : Trig} {db db' : Db} {section_ : Section} {rowCounts : List Nat}
  {removedIds accessibleIds : List SeatIdentity}

/-- **Repositioning** writes coordinates and flags of seats, nothing else. -/
theorem repositionSeats_ok
    (h : repositionSeats trig db section_ rowCounts removedIds accessibleIds = .ok db') :
    ∃ seats, db' = { db with seats := seats } := by
  unfold repositionSeats at h
  dsimp only at h
  split_ifs at h
  cases h
  exact ⟨_, rfl⟩

/-- **Generating** either fills a section without seats, or deletes the seats of a section
    that has no live ticket and fills it again. -/
theorem generateSeats_ok {accessible : Nat → List Nat} {replace : Bool}
    (h : generateSeats trig db section_ rowCounts accessible removedIds accessibleIds replace
      = .ok db') :
    (seatsOf db section_.id = [] ∧ ∃ seats, db' = { db with seats := seats }) ∨
      (liveTicketSeats db section_.id = [] ∧ ∃ db₁ seats,
        deleteSeats db ((seatsOf db section_.id).map (·.id)) = .ok db₁ ∧
          db' = { db₁ with seats := seats }) := by
  unfold generateSeats at h
  dsimp only at h
  split_ifs at h with hnone hlive hreplace
  · cases h
    exact .inl ⟨hnone, _, rfl⟩
  · rw [not_not] at hlive
    split at h
    · cases h
    · rename_i db₁ hd
      cases h
      exact .inr ⟨hlive, db₁, _, hd, rfl⟩

end Spec

end BoxOffice
