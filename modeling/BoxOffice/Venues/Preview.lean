import BoxOffice.Venues.Roster
import BoxOffice.Venues.SeatGeometry
import BoxOffice.Venues.ShapeCenter

namespace BoxOffice

/-!
# Venues — the preview and the server agree

The same generator is written twice, in `seat_geometry.js` and in `generation.py`.  Under
`Mirrors` the two hold the same parameters of a section; then every function of the one returns
what its sibling returns.

* arithmetic: labels, numbers and row counts are whole numbers there and natural numbers here;
* geometry: `null` and zero are one arc radius, `π / 180` is one constant;
* `preview_agrees` — hence the seats, the pivot and the rebalanced origin are the same.
-/

open SeatGeometry (JsMath JsSection)

variable {K : Type} [Field K]

/-- `math`, with the same constant and the same functions as `Math`; `math.radians` multiplies by
    `π / 180`. -/
def pythonMath (m : JsMath K) : Trig K := ⟨fun degrees => degrees * (m.pi / 180), m.sin, m.cos⟩

/-- The page and the server hold the same parameters; a missing value counts as zero. -/
structure Mirrors (s : JsSection K) (p : SectionParams K) : Prop where
  originX : s.originX = p.originX
  originY : s.originY = p.originY
  rotation : s.rotation = p.rotation
  seatPitch : s.seatPitch = p.seatPitch
  rowPitch : s.rowPitch = p.rowPitch
  rowXOffset : s.rowXOffset = p.rowXOffset
  offsetMode : s.offsetMode = p.offsetMode
  altRowSeatDelta : s.altRowSeatDelta = p.altRowSeatDelta
  arcRadius : s.arcRadius.getD 0 = p.arcRadius.getD 0
  rows : s.rows = p.rows
  seatsPerRow : s.seatsPerRow = p.seatsPerRow
  numberingScheme : s.numberingScheme = p.numberingScheme
  rowLabelScheme : s.rowLabelScheme = p.rowLabelScheme
  rowLabelStart : s.rowLabelStart.getD 0 = p.rowLabelStart
  pivotMode : s.pivotMode = p.pivotMode
  pivotX : s.pivotX.getD 0 = p.pivotX
  pivotY : s.pivotY.getD 0 = p.pivotY

/-! ### Labels and numbers -/

/-- Page and server write the same letters, without I and O. -/
theorem lettersSkipIo_eq : SeatGeometry.lettersSkipIo = baseLettersSkipIo := by decide

/-- Both pick the same letters for a scheme. -/
theorem letters_eq (scheme : RowLabelScheme) :
    (if scheme = .allLetters then SeatGeometry.lettersAll else SeatGeometry.lettersSkipIo)
      = rowLetters scheme := by
  rw [lettersSkipIo_eq]
  cases scheme <;> rfl

/-- A label is one letter, repeated. -/
theorem repeatLetter_eq (letters : List Char) (i : Nat) :
    SeatGeometry.repeatLetter letters ((i : Int) % letters.length) ((i : Int) / letters.length + 1)
      = rowLabel letters i := by
  have hgroup : ((i : Int) / letters.length + 1).toNat = i / letters.length + 1 := by
    rw [← Int.natCast_ediv]
    generalize i / letters.length = group
    omega
  have hindex : ((i : Int) % letters.length).toNat = i % letters.length := by
    rw [← Int.natCast_emod, Int.toNat_natCast]
  unfold SeatGeometry.repeatLetter rowLabel
  rw [hgroup, hindex]

/-- Page and server label the rows alike. -/
theorem rowLabels_agree (count : Nat) (scheme : RowLabelScheme) (start : Nat) :
    SeatGeometry.generateRowLabels count scheme start = generateRowLabels count scheme start := by
  unfold SeatGeometry.generateRowLabels generateRowLabels
  dsimp only
  rw [Loops.foldl_push, List.nil_append, letters_eq]
  refine List.map_congr_left fun k _ => ?_
  rw [← Int.natCast_add]
  exact repeatLetter_eq _ _

/-- An array is the list of its values. -/
theorem arrayFrom_eq {seatCount : Nat} {f : Int → Int} {g : Nat → Nat}
    (h : ∀ i, i < seatCount → f i = g i) :
    SeatGeometry.arrayFrom seatCount f = ((List.range seatCount).map g).map Nat.cast := by
  unfold SeatGeometry.arrayFrom
  rw [Int.toNat_natCast, List.map_map]
  exact List.map_congr_left fun i hi => h i (List.mem_range.mp hi)

/-- Both number the seats alike. -/
theorem seatNumbers_agree (seatCount : Nat) (scheme : NumberingScheme) (rowIndex : Nat) :
    SeatGeometry.generateSeatNumbers seatCount scheme rowIndex
      = (generateSeatNumbers seatCount scheme rowIndex).map Nat.cast := by
  unfold SeatGeometry.generateSeatNumbers generateSeatNumbers
  cases scheme <;> simp only [reduceCtorEq, ↓reduceIte] <;>
    exact arrayFrom_eq fun i hi => by omega

/-- Both count the seats of the rows alike. -/
theorem rowCounts_agree (rows seatsPerRow : Nat) (offsetMode : OffsetMode) (altRowSeatDelta : Int) :
    SeatGeometry.computeRowCounts rows seatsPerRow offsetMode altRowSeatDelta
      = (computeRowCounts rows seatsPerRow offsetMode altRowSeatDelta).map Nat.cast := by
  unfold SeatGeometry.computeRowCounts computeRowCounts
  dsimp only
  rw [Loops.foldl_push, List.nil_append, Int.toNat_natCast, List.map_map]
  refine List.map_congr_left fun i _ => ?_
  exact (Int.toNat_of_nonneg (le_trans Int.one_nonneg (le_max_left ..))).symm

/-! ### Geometry -/

section Geometry

variable {m : JsMath K} {s : JsSection K} {p : SectionParams K}

/-- Page and server shift the rows alike. -/
theorem rowXOffset_agree (h : Mirrors s p) (rowIndex : Nat) :
    SeatGeometry.rowXOffset s rowIndex = rowXOffset p rowIndex := by
  unfold SeatGeometry.rowXOffset rowXOffset
  rw [h.offsetMode, h.rowXOffset]

/-- Both place the seats of a grid alike. -/
theorem grid_agree (h : Mirrors s p) (rowIndex seatIndex : Nat) :
    SeatGeometry.gridOrRakedLocal s rowIndex seatIndex = gridOrRakedLocal p rowIndex seatIndex := by
  unfold SeatGeometry.gridOrRakedLocal gridOrRakedLocal
  rw [rowXOffset_agree h, h.seatPitch, h.rowPitch]

/-- One less than a number of seats, in both kinds of numbers. -/
theorem natCast_pred (n : Nat) : ((max 0 ((n : Int) - 1) : Int) : K) = ((n - 1 : Nat) : K) := by
  rw [show max 0 ((n : Int) - 1) = ((n - 1 : Nat) : Int) by omega, Int.cast_natCast]

/-- **The pivot.** -/
theorem pivot_agree (h : Mirrors s p) : SeatGeometry.pivotLocal s = rotationPivotLocal p := by
  unfold SeatGeometry.pivotLocal rotationPivotLocal SeatGeometry.number
  rw [h.pivotMode, h.pivotX, h.pivotY, h.seatsPerRow, h.rows, h.seatPitch, h.rowPitch,
    natCast_pred, natCast_pred]
  cases p.pivotMode <;> rfl

variable [LinearOrder K]

/-- Page and server rotate alike. -/
theorem rotate_agree (x y degrees : K) :
    SeatGeometry.rotate m x y degrees = rotate (pythonMath m) x y degrees := by
  unfold SeatGeometry.rotate rotate pythonMath
  rw [mul_div_assoc]

/-- Both place the seats of a fan alike. -/
theorem fanned_agree (h : Mirrors s p) (rowIndex seatIndex rowSeatCount : Nat) :
    SeatGeometry.fannedLocal m s rowIndex seatIndex rowSeatCount
      = fannedLocal (pythonMath m) p (s.arcRadius.getD 0) rowIndex seatIndex rowSeatCount := by
  unfold SeatGeometry.fannedLocal fannedLocal SeatGeometry.number pythonMath
  rw [rowXOffset_agree h, h.seatPitch, h.rowPitch, Int.cast_natCast]

/-- One local point of a section whose radius is `arcRadius`. -/
theorem point_agree (h : Mirrors s p) {arcRadius : Option K}
    (harc : s.arcRadius.getD 0 = arcRadius.getD 0) (rowIndex seatIndex rowSeatCount : Nat) :
    (if SeatGeometry.number s.arcRadius = 0 then SeatGeometry.gridOrRakedLocal s rowIndex seatIndex
      else SeatGeometry.fannedLocal m s rowIndex seatIndex rowSeatCount)
      = blockPoint (pythonMath m) p arcRadius rowSeatCount rowIndex seatIndex := by
  rw [grid_agree h, fanned_agree h]
  unfold SeatGeometry.number blockPoint
  rw [harc]
  cases arcRadius with
  | none => exact if_pos rfl
  | some radius => rfl

/-- Page and server turn a point about the pivot alike. -/
theorem toWorld_agree (h : Mirrors s p) {point point' : K × K} (hpoint : point = point') :
    SeatGeometry.toWorld m s point
      = (p.originX + (rotationPivotLocal p).1 + (rotate (pythonMath m)
          (point'.1 - (rotationPivotLocal p).1) (point'.2 - (rotationPivotLocal p).2) p.rotation).1,
        p.originY + (rotationPivotLocal p).2 + (rotate (pythonMath m)
          (point'.1 - (rotationPivotLocal p).1) (point'.2 - (rotationPivotLocal p).2) p.rotation).2) := by
  subst hpoint
  unfold SeatGeometry.toWorld
  dsimp only
  rw [pivot_agree h, rotate_agree, h.originX, h.originY, h.rotation]

/-- **The coordinates** of a seat. -/
theorem seatXy_agree (h : Mirrors s p) (rowIndex seatIndex rowSeatCount : Nat) :
    SeatGeometry.seatXY m s rowIndex seatIndex rowSeatCount
      = seatXy (pythonMath m) p rowIndex seatIndex rowSeatCount :=
  toWorld_agree h (point_agree h h.arcRadius rowIndex seatIndex rowSeatCount)

/-! ### The centre of the block -/

omit [Field K] in
/-- The four running bounds are the bounds of the points. -/
theorem foldl_bounds (points : List (K × K)) (b : SeatGeometry.Bounds K) :
    points.foldl SeatGeometry.Bounds.add b
      = ⟨(points.map Prod.fst).foldl Loops.lower b.minX,
        (points.map Prod.fst).foldl Loops.raise b.maxX,
        (points.map Prod.snd).foldl Loops.lower b.minY,
        (points.map Prod.snd).foldl Loops.raise b.maxY⟩ := by
  induction points generalizing b with
  | nil => rfl
  | cons point rest ih => rw [List.foldl_cons, ih]; rfl

/-- Page and server have the center of the shape in the same place. -/
theorem shapeCenter_agree (h : Mirrors s p) {arcRadius arcRadius' : Option K}
    (harc : arcRadius.getD 0 = arcRadius'.getD 0) (rowSeatCount : Nat) :
    SeatGeometry.shapeCenterLocal m s arcRadius rowSeatCount
      = shapeCenterLocal (pythonMath m) p arcRadius' rowSeatCount := by
  have hs : Mirrors { s with arcRadius := arcRadius } { p with arcRadius := arcRadius' } :=
    { h with arcRadius := harc }
  have hrows : s.rows.toNat = p.rows := by rw [h.rows, Int.toNat_natCast]
  have hpoints : ((List.range p.rows).map fun r => (List.range rowSeatCount).map fun c =>
      if SeatGeometry.number arcRadius = 0 then
        SeatGeometry.gridOrRakedLocal { s with arcRadius := arcRadius } r c
      else SeatGeometry.fannedLocal m { s with arcRadius := arcRadius } r c rowSeatCount).flatten
      = blockPoints (pythonMath m) p arcRadius' rowSeatCount := by
    unfold blockPoints
    refine congrArg List.flatten (List.map_congr_left fun r _ => List.map_congr_left fun c _ => ?_)
    exact point_agree hs harc r c rowSeatCount
  unfold SeatGeometry.shapeCenterLocal
  dsimp only
  rw [Loops.foldl_nested, hrows, Int.toNat_natCast, hpoints, foldl_bounds]
  unfold SeatGeometry.Bounds.infinite
  dsimp only
  rw [Loops.foldl_lower, Loops.foldl_raise, Loops.foldl_lower, Loops.foldl_raise]
  rfl

/-- And after the turn too. -/
theorem shapeCenterXy_agree (h : Mirrors s p) {arcRadius arcRadius' : Option K}
    (harc : arcRadius.getD 0 = arcRadius'.getD 0) (rowSeatCount : Nat) :
    SeatGeometry.shapeCenterXY m s arcRadius rowSeatCount
      = shapeCenterXy (pythonMath m) p arcRadius' rowSeatCount :=
  toWorld_agree h (shapeCenter_agree h harc rowSeatCount)

/-- **The rebalanced origin.** -/
theorem rebalance_agree (h : Mirrors s p) {newArcRadius newArcRadius' : Option K}
    (harc : newArcRadius.getD 0 = newArcRadius'.getD 0) (rowSeatCount : Nat) :
    SeatGeometry.rebalanceOriginForArcChange m s newArcRadius rowSeatCount
      = rebalanceOriginForArcChange (pythonMath m) p newArcRadius' rowSeatCount := by
  unfold SeatGeometry.rebalanceOriginForArcChange rebalanceOriginForArcChange
  rw [shapeCenterXy_agree h h.arcRadius, shapeCenterXy_agree h harc, h.originX, h.originY]

end Geometry

/-! ### The seats -/

section Seats

variable [LinearOrder K] {m : JsMath K} {s : JsSection K} {p : SectionParams K}

/-- The seat that the server would create. -/
def SeatGeometry.PreviewSeat.draft (seat : SeatGeometry.PreviewSeat K) : SeatDraft K where
  rowLabel := seat.row
  number := seat.number
  x := seat.x
  y := seat.y
  isAccessible := seat.accessible

/-- A key of the page stands for the identity, for a label and a number that the generator
    writes. -/
theorem contains_keySet {ids : List SeatIdentity} {label : String} (hlabel : NoBar label)
    (number : Nat) :
    (keySet ids).contains (label ++ "|" ++ toString (number : Int))
      = ids.contains (label, toString number) := by
  rw [Bool.eq_iff_iff, List.contains_iff_mem, List.contains_iff_mem, mem_keySet]
  constructor
  · rintro ⟨i, hi, hkey⟩
    have hsame : i = (label, toString number) :=
      seatKey_inj hlabel (noBar_toString number) (hkey.trans rfl)
    exact hsame ▸ hi
  · exact fun hi => ⟨_, hi, rfl⟩

/-- **One row.** -/
theorem row_agrees (h : Mirrors s p) (removedIds accessibleIds : List SeatIdentity) {label : String}
    (hlabel : NoBar label) (rowIndex seatCount : Nat) :
    ((((SeatGeometry.generateSeatNumbers seatCount s.numberingScheme rowIndex).zipIdx.map
      fun (seatNumber, seatIndex) => SeatGeometry.previewSeat m s (keySet removedIds)
        (keySet accessibleIds) label rowIndex seatCount seatNumber seatIndex).filter
          fun seat => !seat.removed).map SeatGeometry.PreviewSeat.draft)
      = buildRow (pythonMath m) p [] removedIds accessibleIds rowIndex label seatCount := by
  unfold buildRow
  rw [h.numberingScheme, seatNumbers_agree, List.zipIdx_map, List.map_map, List.filter_map,
    List.filter_map, List.map_map]
  refine (congrArg (List.map _) (List.filter_congr fun ⟨number, seatIndex⟩ _ => ?_)).trans
    (List.map_congr_left fun ⟨number, seatIndex⟩ _ => ?_)
  · show (SeatGeometry.previewSeat m s _ _ label rowIndex seatCount (number : Int) seatIndex).draft
      = _
    have hxy := seatXy_agree (m := m) h rowIndex seatIndex seatCount
    unfold SeatGeometry.previewSeat SeatGeometry.PreviewSeat.draft
    dsimp only
    rw [hxy, contains_keySet hlabel]
    rfl
  · exact congrArg not (contains_keySet hlabel number)

/-- The rows of the server, by their index. -/
theorem buildSeats_eq_range (trig : Trig K) (p : SectionParams K)
    (removedIds accessibleIds : List SeatIdentity) :
    buildSeats trig p (computeRowCounts p.rows p.seatsPerRow p.offsetMode p.altRowSeatDelta)
        (fun _ => []) removedIds accessibleIds
      = ((List.range p.rows).map fun i => buildRow trig p [] removedIds accessibleIds i
          (rowLabel (rowLetters p.rowLabelScheme) (p.rowLabelStart + i))
          ((computeRowCounts p.rows p.seatsPerRow p.offsetMode p.altRowSeatDelta).getD i 0)).flatten := by
  have hlength : (computeRowCounts p.rows p.seatsPerRow p.offsetMode p.altRowSeatDelta).length
      = p.rows := by
    unfold computeRowCounts
    rw [List.length_map, List.length_range]
  unfold buildSeats generateRowLabels
  dsimp only
  generalize computeRowCounts p.rows p.seatsPerRow p.offsetMode p.altRowSeatDelta = counts
      at hlength ⊢
  refine congrArg List.flatten (List.ext_getElem (by simp [hlength]) fun i hi _ => ?_)
  have hic : i < counts.length := by simpa using hi
  simp [hic]

/-- The rows of the page, by their index. -/
theorem computeSectionSeats_eq_range (h : Mirrors s p) (removedIds accessibleIds : List String) :
    SeatGeometry.computeSectionSeats m s removedIds accessibleIds
      = ((List.range p.rows).map fun i =>
          (SeatGeometry.generateSeatNumbers
            ((computeRowCounts p.rows p.seatsPerRow p.offsetMode p.altRowSeatDelta).getD i 0 : Nat)
            s.numberingScheme i).zipIdx.map fun (seatNumber, seatIndex) =>
              SeatGeometry.previewSeat m s removedIds accessibleIds
                (rowLabel (rowLetters p.rowLabelScheme) (p.rowLabelStart + i)) i
                ((computeRowCounts p.rows p.seatsPerRow p.offsetMode p.altRowSeatDelta).getD i 0 : Nat)
                seatNumber seatIndex).flatten := by
  have hlength : (computeRowCounts p.rows p.seatsPerRow p.offsetMode p.altRowSeatDelta).length
      = p.rows := by
    unfold computeRowCounts
    rw [List.length_map, List.length_range]
  unfold SeatGeometry.computeSectionSeats
  rw [h.rows, h.seatsPerRow, h.offsetMode, h.altRowSeatDelta, h.rowLabelScheme, h.rowLabelStart,
    rowCounts_agree]
  dsimp only
  rw [rowLabels_agree]
  simp only [Loops.foldl_push, Loops.foldl_append, List.nil_append, List.length_map]
  unfold generateRowLabels
  generalize computeRowCounts p.rows p.seatsPerRow p.offsetMode p.altRowSeatDelta = counts
      at hlength ⊢
  refine congrArg List.flatten (List.ext_getElem (by simp [hlength]) fun i hi _ => ?_)
  have hic : i < counts.length := by simpa using hi
  simp [hic]

/-- **The seats.** -/
theorem seats_agree (h : Mirrors s p) (removedIds accessibleIds : List SeatIdentity) :
    ((SeatGeometry.computeSectionSeats m s (keySet removedIds) (keySet accessibleIds)).filter
        fun seat => !seat.removed).map SeatGeometry.PreviewSeat.draft
      = buildSeats (pythonMath m) p
          (computeRowCounts p.rows p.seatsPerRow p.offsetMode p.altRowSeatDelta) (fun _ => [])
          removedIds accessibleIds := by
  rw [computeSectionSeats_eq_range h, buildSeats_eq_range, List.filter_flatten, List.map_flatten,
    List.map_map, List.map_map]
  refine congrArg List.flatten (List.map_congr_left fun i _ => ?_)
  exact row_agrees h removedIds accessibleIds (noBar_rowLabel _ _) i _

/-- **The preview and the server agree**: the seats that are not removed, the pivot and the
    origin rebalanced for a new radius. -/
theorem preview_agrees (h : Mirrors s p) (removedIds accessibleIds : List SeatIdentity)
    {newArcRadius newArcRadius' : Option K} (harc : newArcRadius.getD 0 = newArcRadius'.getD 0)
    (rowSeatCount : Nat) :
    ((SeatGeometry.computeSectionSeats m s (keySet removedIds) (keySet accessibleIds)).filter
        fun seat => !seat.removed).map SeatGeometry.PreviewSeat.draft
      = buildSeats (pythonMath m) p
          (computeRowCounts p.rows p.seatsPerRow p.offsetMode p.altRowSeatDelta) (fun _ => [])
          removedIds accessibleIds ∧
    SeatGeometry.pivotLocal s = rotationPivotLocal p ∧
    SeatGeometry.rebalanceOriginForArcChange m s newArcRadius rowSeatCount
      = rebalanceOriginForArcChange (pythonMath m) p newArcRadius' rowSeatCount :=
  ⟨seats_agree h removedIds accessibleIds, pivot_agree h, rebalance_agree h harc rowSeatCount⟩

end Seats

/-! ### Every section has its mirror -/

/-- What the page holds of the parameters. -/
def jsSection (p : SectionParams K) : JsSection K where
  originX := p.originX
  originY := p.originY
  rotation := p.rotation
  seatPitch := p.seatPitch
  rowPitch := p.rowPitch
  rowXOffset := p.rowXOffset
  offsetMode := p.offsetMode
  altRowSeatDelta := p.altRowSeatDelta
  arcRadius := p.arcRadius
  rows := p.rows
  seatsPerRow := p.seatsPerRow
  numberingScheme := p.numberingScheme
  rowLabelScheme := p.rowLabelScheme
  rowLabelStart := some p.rowLabelStart
  pivotMode := p.pivotMode
  pivotX := some p.pivotX
  pivotY := some p.pivotY

/-- The section that the page is sent mirrors the stored one. -/
theorem jsSection_mirrors (p : SectionParams K) : Mirrors (jsSection p) p :=
  ⟨rfl, rfl, rfl, rfl, rfl, rfl, rfl, rfl, rfl, rfl, rfl, rfl, rfl, rfl, rfl, rfl, rfl⟩

/-- Mathematics that is exact at angle zero. -/
def flatMath : JsMath ℚ := ⟨0, fun _ => 0, fun _ => 1⟩

/-- Two rows of two seats, the first seat removed and the last one accessible. -/
def cornerParams : SectionParams where
  originX := 10
  originY := 0
  rotation := 0
  seatPitch := 1
  rowPitch := 1
  rowXOffset := 1 / 2
  offsetMode := .alternating
  altRowSeatDelta := 0
  arcRadius := none
  pivotMode := .center
  pivotX := 0
  pivotY := 0
  rows := 2
  seatsPerRow := 2
  removedSeats := [("A", "3")]
  accessibleSeats := [("B", "1")]
  numberingScheme := .oddDescLeft
  rowLabelScheme := .skipIo
  rowLabelStart := 0

/-- Its preview, pivot and origin, when the page sets the radius to zero and the server to none. -/
theorem preview_agrees_corner :
    ((SeatGeometry.computeSectionSeats flatMath (jsSection cornerParams) (keySet [("A", "3")])
        (keySet [("B", "1")])).filter fun seat => !seat.removed).map SeatGeometry.PreviewSeat.draft
      = [⟨"A", "1", 11, 0, false⟩, ⟨"B", "3", 21 / 2, 1, false⟩, ⟨"B", "1", 23 / 2, 1, true⟩] ∧
    SeatGeometry.pivotLocal (jsSection cornerParams) = (1 / 2, 1 / 2) ∧
    SeatGeometry.rebalanceOriginForArcChange flatMath (jsSection cornerParams) (some 0) 2
      = (10, 0) := by
  obtain ⟨hseats, hpivot, horigin⟩ :=
    preview_agrees (m := flatMath) (jsSection_mirrors cornerParams)
    [("A", "3")] [("B", "1")]
      (show (some 0 : Option ℚ).getD 0 = (none : Option ℚ).getD 0 from rfl) 2
  exact ⟨hseats.trans (by decide +kernel), hpivot.trans (by decide +kernel),
    horigin.trans (by decide +kernel)⟩

end BoxOffice
