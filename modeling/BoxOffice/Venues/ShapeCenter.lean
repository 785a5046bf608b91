import BoxOffice.Loops.Accumulate
import BoxOffice.Venues.Generation

namespace BoxOffice

/-!
# Venues — curving a section in place

The functions of `venues.generation` that keep the centre of a section's block where it is when
its arc radius changes.
-/

section Center

variable {K : Type} [Field K] [LinearOrder K] (trig : Trig K) (p : SectionParams K)

/-- One point of the uniform block, for an arc radius that is not stored yet. -/
def blockPoint (arcRadius : Option K) (rowSeatCount r c : Nat) : K × K :=
  match arcRadius with
  | some radius =>
    if radius = 0 then gridOrRakedLocal p r c else fannedLocal trig p radius r c rowSeatCount
  | none => gridOrRakedLocal p r c

/-- The points of the block, row by row. -/
def blockPoints (arcRadius : Option K) (rowSeatCount : Nat) : List (K × K) :=
  ((List.range p.rows).map fun r =>
    (List.range rowSeatCount).map fun c => blockPoint trig p arcRadius rowSeatCount r c).flatten

/-- `_shape_center_local`. -/
def shapeCenterLocal (arcRadius : Option K) (rowSeatCount : Nat) : K × K :=
  let points := blockPoints trig p arcRadius rowSeatCount
  let xs := points.map Prod.fst
  let ys := points.map Prod.snd
  match Loops.least xs, Loops.greatest xs, Loops.least ys, Loops.greatest ys with
  | some minX, some maxX, some minY, some maxY => ((minX + maxX) / 2, (minY + maxY) / 2)
  | _, _, _, _ => (0, 0)

/-- `shape_center_xy`. -/
def shapeCenterXy (arcRadius : Option K) (rowSeatCount : Nat) : K × K :=
  let center := shapeCenterLocal trig p arcRadius rowSeatCount
  let pivot := rotationPivotLocal p
  let rel := rotate trig (center.1 - pivot.1) (center.2 - pivot.2) p.rotation
  (p.originX + pivot.1 + rel.1, p.originY + pivot.2 + rel.2)

/-- `rebalance_origin_for_arc_change`. -/
def rebalanceOriginForArcChange (newArcRadius : Option K) (rowSeatCount : Nat) : K × K :=
  let before := shapeCenterXy trig p p.arcRadius rowSeatCount
  let after := shapeCenterXy trig p newArcRadius rowSeatCount
  (p.originX + (before.1 - after.1), p.originY + (before.2 - after.2))

end Center

end BoxOffice
