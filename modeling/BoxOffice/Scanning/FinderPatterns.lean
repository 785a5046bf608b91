import Mathlib.Algebra.Order.Field.Rat
import Mathlib.Data.Rat.Floor

namespace BoxOffice

/-!
# Scanning — finder patterns

The counter of `static/js/qr-multi.js`: how many QR finder patterns a frame shows.

* `checkRatio` — the 1:1:3:1:1 test of five runs;
* `crossCheckVertical`, `crossCheckHorizontal`, `crossCheckDiagonal` — the three cross-checks;
* `addCenter` — what is found near a known centre is merged into it;
* `findQrFinderPatterns` — every second row is read run by run, and a centre needs two hits.

Lengths are natural numbers and centres are rational; the binarizer is a parameter.
-/

/-! ### Constants -/

/-- `VARIANCE_DIV`. -/
def varianceDiv : ℚ := 2

/-- `CLUSTER_MODULES`. -/
def clusterModules : ℚ := 3

/-- `CLUSTER_MIN_PX`. -/
def clusterMinPx : ℚ := 6

/-- `MODULE_RATIO_TOL`. -/
def moduleRatioTol : ℚ := 2

/-- `ROW_STEP`. -/
def rowStep : Nat := 2

/-- `MIN_HITS`. -/
def minHits : Nat := 2

/-! ### Ratios -/

/-- Five runs in a row, the oldest first. -/
@[ext] structure RunWindow where
  r0 : Nat
  r1 : Nat
  r2 : Nat
  r3 : Nat
  r4 : Nat
deriving Repr, DecidableEq

def RunWindow.total (r : RunWindow) : Nat := r.r0 + r.r1 + r.r2 + r.r3 + r.r4

/-- `checkRatio`: the module size, or 0. -/
def checkRatio (r : RunWindow) : ℚ :=
  let total : ℚ := r.total
  if total < 7 then 0
  else
    let moduleSize := total / 7
    let maxVariance := moduleSize / varianceDiv
    if |moduleSize - r.r0| ≥ maxVariance then 0
    else if |moduleSize - r.r1| ≥ maxVariance then 0
    else if |3 * moduleSize - r.r2| ≥ 3 * maxVariance then 0
    else if |moduleSize - r.r3| ≥ maxVariance then 0
    else if |moduleSize - r.r4| ≥ maxVariance then 0
    else moduleSize

/-- `Math.round`. -/
def mathRound (q : ℚ) : Int := ⌊q + 1 / 2⌋

/-! ### Cross-checks -/

/-- How often a loop `while (cell(i) === colour) i++` turns, of `room` turns at most. -/
def countWhile (cell : Nat → Bool) (colour : Bool) : Nat → Nat → Nat
  | 0, _ => 0
  | room + 1, i => if cell i = colour then countWhile cell colour room (i + 1) + 1 else 0

/-- The runs of a cross-check in one direction, from the centre on. -/
structure Arm where
  center : Nat
  light : Nat
  dark : Nat
deriving Repr, DecidableEq

/-- One direction of a check along an axis, where `room` cells remain; `none` is `NaN`. -/
def axisArm (cell : Nat → Bool) (room maxCount : Nat) : Option Arm :=
  let center := countWhile cell true room 0
  -- The walk must not leave the frame before the last run.
  if room ≤ center then none
  else
    let light := countWhile cell false (min (room - center) (maxCount + 1)) center
    if room ≤ center + light ∨ maxCount < light then none
    else
      let dark := countWhile cell true (min (room - center - light) (maxCount + 1)) (center + light)
      if maxCount < dark then none else some ⟨center, light, dark⟩

/-- One direction of the diagonal check, its centre run within `room` cells. -/
def diagonalArm (cell : Nat → Bool) (room maxCount : Nat) : Option Arm :=
  let center := countWhile cell true room 0
  let light := countWhile cell false (maxCount + 1) center
  if light = 0 ∨ maxCount < light then none
  else
    let dark := countWhile cell true (maxCount + 1) (center + light)
    if dark = 0 ∨ maxCount < dark then none else some ⟨center, light, dark⟩

/-- The five runs of two opposite directions. -/
def armWindow (up down : Arm) : RunWindow :=
  ⟨up.dark, up.light, up.center + down.center, down.light, down.dark⟩

/-- A check along an axis of `size` cells: the refined centre, or `NaN`. -/
def crossCheck (cell : Int → Bool) (size : Nat) (center : Int) (maxCount originalTotal : Nat) :
    Option ℚ := do
  let up ← axisArm (fun i => cell (center - i)) (center + 1).toNat maxCount
  let down ← axisArm (fun i => cell (center + 1 + i)) (size - (center + 1)).toNat maxCount
  let runs := armWindow up down
  -- As long as the row's window, give or take two fifths.
  if 5 * |(runs.total : Int) - originalTotal| ≥ 2 * originalTotal then none
  else if checkRatio runs = 0 then none
  else
    let stop : Int := center + 1 + (down.center + down.light + down.dark)
    some ((stop - runs.r4 - runs.r3 : ℚ) - runs.r2 / 2)

section Frame

variable {width height : Nat} (bitmap : Vector Bool (width * height))

/-- `px`. -/
def px (x y : Int) : Bool :=
  if x < 0 ∨ y < 0 ∨ x ≥ width ∨ y ≥ height then false
  else bitmap.getD (y.toNat * width + x.toNat) false

/-- `crossCheckVertical`. -/
def crossCheckVertical (centerX centerY : Int) (maxCount originalTotal : Nat) : Option ℚ :=
  crossCheck (fun y => px bitmap centerX y) height centerY maxCount originalTotal

/-- `crossCheckHorizontal`. -/
def crossCheckHorizontal (centerX centerY : Int) (maxCount originalTotal : Nat) : Option ℚ :=
  crossCheck (fun x => px bitmap x centerY) width centerX maxCount originalTotal

/-- `crossCheckDiagonal`.  A dark run along a diagonal has `width` cells at most. -/
def crossCheckDiagonal (centerX centerY : Int) (maxCount : Nat) : Bool :=
  let up := diagonalArm (fun i => px bitmap (centerX - i) (centerY - i)) width maxCount
  let down := diagonalArm (fun i => px bitmap (centerX + 1 + i) (centerY + 1 + i)) width maxCount
  match up, down with
  | some up, some down => up.center ≠ 0 && decide (checkRatio (armWindow up down) > 0)
  | _, _ => false

end Frame

/-! ### Centres -/

structure Center where
  x : ℚ
  y : ℚ
  moduleSize : ℚ
  hits : Nat
deriving Repr, DecidableEq

/-- A hit belongs to a centre that is near, and of its scale. -/
def Center.Near (c : Center) (x y moduleSize : ℚ) : Prop :=
  let radius := max (clusterModules * max moduleSize c.moduleSize) clusterMinPx
  let dx := c.x - x
  let dy := c.y - y
  let ratio := moduleSize / c.moduleSize
  dx * dx + dy * dy ≤ radius * radius ∧ (if ratio < 1 then 1 / ratio else ratio) ≤ moduleRatioTol

instance (c : Center) (x y moduleSize : ℚ) : Decidable (c.Near x y moduleSize) :=
  inferInstanceAs (Decidable (_ ∧ _))

/-- The means of a centre with one more hit. -/
def Center.merge (c : Center) (x y moduleSize : ℚ) : Center :=
  let n : ℚ := c.hits + 1
  ⟨(c.x * c.hits + x) / n, (c.y * c.hits + y) / n, (c.moduleSize * c.hits + moduleSize) / n,
    c.hits + 1⟩

/-- `addCenter`. -/
def addCenter (x y moduleSize : ℚ) : List Center → List Center
  | [] => [⟨x, y, moduleSize, 1⟩]
  | c :: rest =>
    if c.Near x y moduleSize then c.merge x y moduleSize :: rest
    else c :: addCenter x y moduleSize rest

/-! ### Rows -/

/-- `shiftRun`. -/
def shiftRun (runs : RunWindow) (len : Nat) : RunWindow :=
  ⟨runs.r1, runs.r2, runs.r3, runs.r4, len⟩

/-- What the scan of a row carries from pixel to pixel. -/
structure RowScan where
  runs : RunWindow
  runCount : Nat
  currentIsDark : Bool
  runLen : Nat
  centers : List Center
deriving Repr, DecidableEq

section Rows

variable {width height : Nat} (bitmap : Vector Bool (width * height))

/-- `tryRowCandidate`.  `Math.ceil` of a run is the run. -/
def tryRowCandidate (runs : RunWindow) (x y : Nat) (centers : List Center) : List Center :=
  let moduleSize := checkRatio runs
  if moduleSize = 0 then centers
  else
    -- The window ends right before `x`.
    let centerX : ℚ := ((x : ℚ) - runs.r4 - runs.r3) - runs.r2 / 2
    let maxCount := runs.r2
    match crossCheckVertical bitmap (mathRound centerX) y maxCount runs.total with
    | none => centers
    | some centerY =>
      match crossCheckHorizontal bitmap (mathRound centerX) (mathRound centerY) maxCount
          runs.total with
      | none => centers
      | some refinedX =>
        if crossCheckDiagonal bitmap (mathRound refinedX) (mathRound centerY) maxCount then
          addCenter refinedX centerY moduleSize centers
        else centers

/-- One turn of the loop over `x`, which goes one past the row. -/
def scanPixel (y : Nat) (s : RowScan) (x : Nat) : RowScan :=
  let isDark := decide (x < width) && bitmap.getD (y * width + x) false
  if x < width ∧ isDark = s.currentIsDark then { s with runLen := s.runLen + 1 }
  else
    -- The colour changes, or the row ends.
    let runs := shiftRun s.runs s.runLen
    let runCount := if s.runCount < 5 then s.runCount + 1 else s.runCount
    { runs := runs
      runCount := runCount
      currentIsDark := isDark
      runLen := 1
      centers := if runCount = 5 ∧ s.currentIsDark then tryRowCandidate bitmap runs x y s.centers
        else s.centers }

/-- The scan at the start of a row. -/
def rowStart (y : Nat) (centers : List Center) : RowScan :=
  ⟨⟨0, 0, 0, 0, 0⟩, 0, bitmap.getD (y * width) false, 0, centers⟩

def scanRow (centers : List Center) (y : Nat) : List Center :=
  ((List.range (width + 1)).foldl (scanPixel bitmap y) (rowStart bitmap y centers)).centers

end Rows

/-- The rows that are scanned. -/
def scannedRows (height : Nat) : List Nat :=
  List.range' 0 ((height + rowStep - 1) / rowStep) rowStep

section Find

variable {D : Type} (binarize : D → (width height : Nat) → Vector Bool (width * height))

/-- `findQrFinderPatterns`. -/
def findQrFinderPatterns (data : Option D) (width height : Nat) : List Center :=
  match data with
  | none => []
  | some data =>
    if width < 7 ∨ height < 7 then []
    else
      let bitmap := binarize data width height
      ((scannedRows height).foldl (scanRow bitmap) []).filter fun c => c.hits ≥ minHits

/-- `countQrFinderPatterns`. -/
def countQrFinderPatterns (data : Option D) (width height : Nat) : Nat :=
  (findQrFinderPatterns binarize data width height).length

end Find

end BoxOffice
