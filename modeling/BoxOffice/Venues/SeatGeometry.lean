import BoxOffice.Loops.Accumulate
import BoxOffice.Venues.Generation
import BoxOffice.Venues.SeatKey

namespace BoxOffice.SeatGeometry

/-!
# Venues — the seat geometry of the browser

The functions of `static/js/seat_geometry.js`, which compute the seats of a section for the live
preview.  Whole numbers are integers, coordinates are elements of an ordered field; `null` counts
as zero in arithmetic and, like zero, as false in a condition.
-/

/-- `Math.PI`, `Math.sin` and `Math.cos`. -/
structure JsMath (K : Type) where
  pi : K
  sin : K → K
  cos : K → K

/-- The `section` object. -/
structure JsSection (K : Type) where
  originX : K
  originY : K
  rotation : K
  seatPitch : K
  rowPitch : K
  rowXOffset : K
  offsetMode : OffsetMode
  altRowSeatDelta : Int
  /-- A number or `null`. -/
  arcRadius : Option K
  rows : Int
  seatsPerRow : Int
  numberingScheme : NumberingScheme
  rowLabelScheme : RowLabelScheme
  rowLabelStart : Option Int
  pivotMode : PivotMode
  pivotX : Option K
  pivotY : Option K

/-! ### Labels and numbers -/

/-- `LETTERS_ALL`. -/
def lettersAll : List Char := "ABCDEFGHIJKLMNOPQRSTUVWXYZ".toList

/-- `LETTERS_SKIP_IO`. -/
def lettersSkipIo : List Char := lettersAll.filter fun c => c ≠ 'I' && c ≠ 'O'

/-- `letters[index].repeat(times)`. -/
def repeatLetter (letters : List Char) (index times : Int) : String :=
  String.ofList (List.replicate times.toNat (letters.getD index.toNat 'A'))

/-- `generateRowLabels`. -/
def generateRowLabels (count : Nat) (scheme : RowLabelScheme) (start : Int) : List String :=
  let letters := if scheme = .allLetters then lettersAll else lettersSkipIo
  let n : Int := letters.length
  (List.range count).foldl (fun (labels : List String) (k : Nat) =>
    let i : Int := start + k
    let group := i / n
    let index := i % n
    labels ++ [repeatLetter letters index (group + 1)]) []

/-- `Array.from({ length }, (_, i) => f(i))`. -/
def arrayFrom (length : Int) (f : Int → Int) : List Int :=
  (List.range length.toNat).map fun (i : Nat) => f i

/-- `generateSeatNumbers`. -/
def generateSeatNumbers (seatCount : Int) (scheme : NumberingScheme) (rowIndex : Nat) : List Int :=
  if scheme = .oddDescLeft then arrayFrom seatCount fun i => 2 * (seatCount - i) - 1
  else if scheme = .evenAscRight then arrayFrom seatCount fun i => 2 * (i + 1)
  else if scheme = .hundreds then
    let base := ((rowIndex : Int) + 1) * 100
    arrayFrom seatCount fun i => base + i + 1
  else if scheme = .hundredsFlat then arrayFrom seatCount fun i => 100 + i + 1
  else arrayFrom seatCount fun i => i + 1

/-- `computeRowCounts`. -/
def computeRowCounts (rows seatsPerRow : Int) (offsetMode : OffsetMode) (altRowSeatDelta : Int) :
    List Int :=
  (List.range rows.toNat).foldl (fun (counts : List Int) (rowIndex : Nat) =>
    let n := if offsetMode = .alternating ∧ rowIndex % 2 = 1 then seatsPerRow + altRowSeatDelta
      else seatsPerRow
    counts ++ [max 1 n]) []

/-! ### Geometry -/

section Geometry

/-- The literal of the degrees, in every field. -/
instance atLeastTwo_180 : Nat.AtLeastTwo 180 := ⟨by decide⟩

variable {K : Type} [Field K] [LinearOrder K] (m : JsMath K) (s : JsSection K)

/-- A number or `null`, in arithmetic and as `value || 0`. -/
def number (value : Option K) : K := value.getD 0

/-- `rotate`. -/
def rotate (x y degrees : K) : K × K :=
  if degrees = 0 then (x, y)
  else
    let theta := degrees * m.pi / 180
    let cosT := m.cos theta
    let sinT := m.sin theta
    (x * cosT - y * sinT, x * sinT + y * cosT)

/-- `rowXOffset`. -/
def rowXOffset (rowIndex : Nat) : K :=
  if s.offsetMode = .alternating then if rowIndex % 2 = 1 then s.rowXOffset else 0
  else rowIndex * s.rowXOffset

/-- `gridOrRakedLocal`. -/
def gridOrRakedLocal (rowIndex seatIndex : Nat) : K × K :=
  (seatIndex * s.seatPitch + rowXOffset s rowIndex, rowIndex * s.rowPitch)

/-- `fannedLocal`. -/
def fannedLocal (rowIndex seatIndex : Nat) (rowSeatCount : Int) : K × K :=
  let radius := number s.arcRadius + rowIndex * s.rowPitch
  let angleStep := if radius = 0 then 0 else s.seatPitch / radius
  let centerOffset : K := ((rowSeatCount : K) - 1) / 2
  let theta := (seatIndex - centerOffset) * angleStep
  (radius * m.sin theta + rowXOffset s rowIndex, radius * m.cos theta - number s.arcRadius)

/-- `pivotLocal`. -/
def pivotLocal : K × K :=
  if s.pivotMode = .origin then (0, 0)
  else if s.pivotMode = .custom then (number s.pivotX, number s.pivotY)
  else
    let w := ((max 0 (s.seatsPerRow - 1) : Int) : K) * s.seatPitch
    let h := ((max 0 (s.rows - 1) : Int) : K) * s.rowPitch
    (w / 2, h / 2)

/-- A local point in the world: rotated around the pivot and moved to the origin. -/
def toWorld (point : K × K) : K × K :=
  let pivot := pivotLocal s
  let rel := rotate m (point.1 - pivot.1) (point.2 - pivot.2) s.rotation
  (s.originX + pivot.1 + rel.1, s.originY + pivot.2 + rel.2)

/-- `seatXY`. -/
def seatXY (rowIndex seatIndex : Nat) (rowSeatCount : Int) : K × K :=
  toWorld m s (if number s.arcRadius = 0 then gridOrRakedLocal s rowIndex seatIndex
    else fannedLocal m s rowIndex seatIndex rowSeatCount)

/-! ### The centre of the block -/

/-- The running bounds; `none` is infinite. -/
structure Bounds (K : Type) where
  minX : Option K
  maxX : Option K
  minY : Option K
  maxY : Option K

/-- No point yet. -/
def Bounds.infinite : Bounds K := ⟨none, none, none, none⟩

/-- One more point. -/
def Bounds.add (b : Bounds K) (point : K × K) : Bounds K where
  minX := Loops.lower b.minX point.1
  maxX := Loops.raise b.maxX point.1
  minY := Loops.lower b.minY point.2
  maxY := Loops.raise b.maxY point.2

/-- `shapeCenterLocal`; the object has the radius while the points are computed. -/
def shapeCenterLocal (arcRadius : Option K) (rowSeatCount : Int) : K × K :=
  let s := { s with arcRadius := arcRadius }
  let bounds := (List.range s.rows.toNat).foldl (fun (bounds : Bounds K) (r : Nat) =>
    ((List.range rowSeatCount.toNat).map fun (c : Nat) =>
      if number arcRadius = 0 then gridOrRakedLocal s r c
      else fannedLocal m s r c rowSeatCount).foldl Bounds.add bounds) Bounds.infinite
  match bounds.minX, bounds.maxX, bounds.minY, bounds.maxY with
  | some minX, some maxX, some minY, some maxY => ((minX + maxX) / 2, (minY + maxY) / 2)
  | _, _, _, _ => (0, 0)

/-- `shapeCenterXY`. -/
def shapeCenterXY (arcRadius : Option K) (rowSeatCount : Int) : K × K :=
  toWorld m s (shapeCenterLocal m s arcRadius rowSeatCount)

/-- `rebalanceOriginForArcChange`. -/
def rebalanceOriginForArcChange (newArcRadius : Option K) (rowSeatCount : Int) : K × K :=
  let before := shapeCenterXY m s s.arcRadius rowSeatCount
  let after := shapeCenterXY m s newArcRadius rowSeatCount
  (s.originX + (before.1 - after.1), s.originY + (before.2 - after.2))

/-! ### The seats -/

/-- One seat of the preview. -/
structure PreviewSeat (K : Type) where
  row : String
  number : String
  x : K
  y : K
  accessible : Bool
  removed : Bool

/-- One seat of a row. -/
def previewSeat (removedIds accessibleIds : List String) (rowLabel : String) (rowIndex : Nat)
    (seatCount : Int) (seatNumber : Int) (seatIndex : Nat) : PreviewSeat K :=
  let numberStr := toString seatNumber
  let key := rowLabel ++ "|" ++ numberStr
  let xy := seatXY m s rowIndex seatIndex seatCount
  { row := rowLabel
    number := numberStr
    x := xy.1
    y := xy.2
    accessible := accessibleIds.contains key
    removed := removedIds.contains key }

/-- `computeSectionSeats`. -/
def computeSectionSeats (removedIds accessibleIds : List String) : List (PreviewSeat K) :=
  let rowCounts := computeRowCounts s.rows s.seatsPerRow s.offsetMode s.altRowSeatDelta
  let labels := generateRowLabels rowCounts.length s.rowLabelScheme (s.rowLabelStart.getD 0)
  rowCounts.zipIdx.foldl (fun seats (seatCount, rowIndex) =>
    let rowLabel := labels.getD rowIndex ""
    let numbers := generateSeatNumbers seatCount s.numberingScheme rowIndex
    numbers.zipIdx.foldl (fun seats (seatNumber, seatIndex) =>
      seats ++ [previewSeat m s removedIds accessibleIds rowLabel rowIndex seatCount seatNumber
        seatIndex]) seats) []

end Geometry

end BoxOffice.SeatGeometry
