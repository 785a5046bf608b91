import BoxOffice.Venues.ChartParsing
import BoxOffice.Venues.Preview
import BoxOffice.Venues.SpecJson
import Mathlib.Algebra.Order.Field.Rat
import Mathlib.Tactic.FieldSimp
import Mathlib.Tactic.Linarith
import Mathlib.Tactic.Ring

namespace BoxOffice

open Relational Python

/-!
# Venues — centre alignment

The offset that `_derived_center_offset` infers from the widths of the rows, against the seats
that the generator makes with it.

* `TrimmedBlock` — a block whose rows have lost their highest numbers and taper exactly;
* `Centred` — its rows have one midpoint;
* `center_alignment_iff` — the offset centres such a block unless the numbers descend, and then
  only one whose rows are equally wide; and every offset is within its cap.
-/

/-! ### A section, row by row -/

namespace SectionSpec

variable (s : SectionSpec)

/-- The label of a row. -/
def label (i : Nat) : String := rowLabel (rowLetters s.rowLabelScheme) (s.rowLabelStart + i)

/-- The numbers printed in a row, from left to right. -/
def printed (i : Nat) : List Nat := generateSeatNumbers s.seatsPerRow s.numberingScheme i

/-- Is the seat removed? -/
def removes (i number : Nat) : Bool := s.removedSeats.contains (s.label i, toString number)

/-- The seats that remain in a row. -/
def width (i : Nat) : Nat := (s.printed i).countP fun number => !s.removes i number

/-- The removed seats of every row are its highest numbers, and the widths that remain taper
    exactly, by so little that the offset is not capped. -/
structure TrimmedBlock : Prop where
  repeated : s.offsetMode = .repeated
  straight : s.arcRadius = none
  known : ∀ i < s.rows, ∀ number, (s.label i, number) ∈ s.removedSeats →
    ∃ a ∈ s.printed i, number = toString a
  highest : ∀ i < s.rows, ∀ a ∈ s.printed i, ∀ b ∈ s.printed i,
    s.removes i a = true → s.removes i b = false → b < a
  positive : ∀ i < s.rows, 0 < s.width i
  linear : ∃ slope : ℚ, (∀ i < s.rows, (s.width i : ℚ) = s.width 0 + slope * i) ∧
    |s.seatPitch * slope / 2| ≤ 2

/-- No removed seat of a row is listed twice. -/
def ListedOnce : Prop :=
  ∀ i < s.rows, (s.removedSeats.filter fun seat => seat.1 == s.label i).Nodup

/-- All rows are equally wide. -/
def EqualWidths : Prop := ∀ i < s.rows, s.width i = s.width 0

/-- The seats of the section as it stands before it is rotated. -/
def unrotatedSeats (trig : Trig) : List SeatDraft :=
  buildSeats trig { specParams s with rotation := 0 }
    (computeRowCounts s.rows s.seatsPerRow s.offsetMode s.altRowSeatDelta) (fun _ => [])
    s.removedSeats s.accessibleSeats

/-- Where the seats of a row stand. -/
def rowXs (trig : Trig) (i : Nat) : List ℚ :=
  ((s.unrotatedSeats trig).filter fun seat => seat.rowLabel == s.label i).map (·.x)

end SectionSpec

/-- Halfway between the first and the last. -/
def IsMidpoint (m : ℚ) (xs : List ℚ) : Prop :=
  ∃ a ∈ xs, ∃ b ∈ xs, (∀ x ∈ xs, a ≤ x ∧ x ≤ b) ∧ 2 * m = a + b

/-- Every row has the same midpoint. -/
def SectionSpec.Centred (trig : Trig) (s : SectionSpec) : Prop :=
  ∃ m, ∀ i < s.rows, IsMidpoint m (s.rowXs trig i)

/-! ### The offset -/

/-- The rows that have seats, with their indices. -/
def occupiedRows (rows seatsPerRow : Nat) (scheme : RowLabelScheme) (start : Nat)
    (removedSeats : List SeatIdentity) : List (Nat × Nat) :=
  (((generateRowLabels rows scheme start).map fun label =>
    seatsPerRow - removedSeats.countP fun i => i.1 == label).zipIdx).filter fun row => 0 < row.1

/-- The row that anchors the line, besides the first. -/
def anchorRow (first second : Nat × Nat) (rest : List (Nat × Nat)) : Nat × Nat :=
  let widest := widestRow first (second :: rest)
  if widest.2 = first.2 then (second :: rest).getLastD second else widest

/-- The occupied rows of a section. -/
def SectionSpec.occupied (s : SectionSpec) : List (Nat × Nat) :=
  occupiedRows s.rows s.seatsPerRow s.rowLabelScheme s.rowLabelStart s.removedSeats

/-- The offset is within the cap, and the divisor of its slope is not zero. -/
structure SectionSpec.OffsetSound (s : SectionSpec) : Prop where
  low : -2 ≤ derivedCenterOffset s
  high : derivedCenterOffset s ≤ 2
  divisor : ∀ first second rest, s.occupied = first :: second :: rest →
    ((anchorRow first second rest).2 : ℚ) - first.2 ≠ 0

/-- The slope between two rows. -/
def rowSlope (first anchor : Nat × Nat) : ℚ :=
  ((anchor.1 : ℚ) - first.1) / ((anchor.2 : ℚ) - first.2)

/-- The rows that are near the line. -/
def fittingRows (first : Nat × Nat) (slope : ℚ) (occupied : List (Nat × Nat)) : Nat :=
  occupied.countP fun row =>
    decide (|(row.1 : ℚ) - (first.1 + slope * ((row.2 : ℚ) - first.2))| ≤ 5 / 4)

section Offset

variable {s : SectionSpec} {first second : Nat × Nat} {rest : List (Nat × Nat)}

/-- The derived offset of a block with two rows or more. -/
theorem derivedCenterOffset_eq (h : s.offsetMode = .repeated)
    (hrows : s.occupied = first :: second :: rest) :
    derivedCenterOffset s =
      let slope := rowSlope first (anchorRow first second rest)
      if (fittingRows first slope (first :: second :: rest) : ℚ)
          < 3 / 4 * (first :: second :: rest).length then 0
      else max (-2) (min 2 (-s.seatPitch * slope / 2)) := by
  unfold SectionSpec.occupied occupiedRows at hrows
  unfold derivedCenterOffset
  rw [if_neg (by rw [h]; decide)]
  simp only [hrows]
  rfl

/-- Rows whose counts lie on a line have its slope. -/
theorem rowSlope_of_line {anchor : Nat × Nat} {slope : ℚ}
    (hline : (anchor.1 : ℚ) = first.1 + slope * ((anchor.2 : ℚ) - first.2))
    (hne : anchor.2 ≠ first.2) : rowSlope first anchor = slope := by
  have hdivisor : (anchor.2 : ℚ) - first.2 ≠ 0 := sub_ne_zero.mpr (by exact_mod_cast hne)
  unfold rowSlope
  rw [hline, add_sub_cancel_left, mul_div_cancel_right₀ _ hdivisor]

/-- The widest row is one of the rows. -/
theorem widestRow_mem (first : Nat × Nat) (rest : List (Nat × Nat)) :
    widestRow first rest ∈ first :: rest := by
  unfold widestRow
  induction rest generalizing first with
  | nil => simp
  | cons row rest ih =>
    rw [List.foldl_cons]
    have hmem := ih (if first.1 < row.1 ∨ (first.1 = row.1 ∧ first.2 < row.2) then row else first)
    rcases List.mem_cons.mp hmem with h | h
    · rw [h]
      split_ifs <;> simp
    · simp [h]

/-- No row is listed twice. -/
theorem occupied_indices (s : SectionSpec) : (s.occupied.map Prod.snd).Nodup := by
  unfold SectionSpec.occupied occupiedRows
  refine List.Nodup.sublist (List.filter_sublist.map _) ?_
  rw [List.zipIdx_map_snd]
  exact List.nodup_range'

/-- The anchor is another row than the first. -/
theorem anchorRow_mem (hnodup : ((first :: second :: rest).map Prod.snd).Nodup) :
    anchorRow first second rest ∈ second :: rest ∧
      (anchorRow first second rest).2 ≠ first.2 := by
  have hother (row : Nat × Nat) (hrow : row ∈ second :: rest) : row.2 ≠ first.2 := by
    intro heq
    rw [List.map_cons] at hnodup
    exact (List.nodup_cons.mp hnodup).1 (heq ▸ List.mem_map_of_mem hrow)
  unfold anchorRow
  dsimp only
  split_ifs with hwidest
  · have hlast : (second :: rest).getLastD second ∈ second :: rest := by
      rw [List.getLastD_cons]
      exact List.getLastD_mem_cons
    exact ⟨hlast, hother _ hlast⟩
  · rcases List.mem_cons.mp (widestRow_mem first (second :: rest)) with h | h
    · exact absurd (congrArg Prod.snd h) hwidest
    · exact ⟨h, hwidest⟩

/-- **Every offset** is within the cap, and divides by no zero. -/
theorem offsetSound (s : SectionSpec) : s.OffsetSound := by
  have hcapped (x : ℚ) : -2 ≤ max (-2) (min 2 x) ∧ max (-2) (min 2 x) ≤ 2 :=
    ⟨le_max_left _ _, max_le (by norm_num) (min_le_left _ _)⟩
  have hrange : -2 ≤ derivedCenterOffset s ∧ derivedCenterOffset s ≤ 2 := by
    unfold derivedCenterOffset
    split_ifs
    · norm_num
    · dsimp only
      split
      · -- The anchor is one of two rows; either slope is capped, or given up.
        split_ifs <;> first | exact hcapped _ | norm_num
      · norm_num
  refine ⟨hrange.1, hrange.2, fun first second rest hrows => ?_⟩
  have hne := (anchorRow_mem (hrows ▸ occupied_indices s)).2
  rw [sub_ne_zero]
  exact_mod_cast hne

end Offset

/-! ### Rows of positions -/

/-- The positions kept on the left are the first ones. -/
theorem filter_range_of_lower {keep : Nat → Bool} {n : Nat}
    (h : ∀ i j, j < n → i < j → keep j = true → keep i = true) :
    (List.range n).filter keep = List.range ((List.range n).countP keep) := by
  induction n with
  | zero => rfl
  | succ n ih =>
    have hrest := ih fun i j hj => h i j (Nat.lt_succ_of_lt hj)
    rw [List.range_succ, List.filter_append, List.countP_append]
    cases hn : keep n with
    | false => simpa [hn] using hrest
    | true =>
      have hall : (List.range n).filter keep = List.range n :=
        List.filter_eq_self.mpr fun i hi =>
          h i n (Nat.lt_succ_self n) (List.mem_range.mp hi) hn
      have hcount : (List.range n).countP keep = n := by
        rw [List.countP_eq_length_filter, hall, List.length_range]
      simp [hn, hall, hcount, List.range_succ]

/-- The positions kept on the right are the last ones. -/
theorem filter_range_of_upper {keep : Nat → Bool} {n : Nat}
    (h : ∀ i j, j < n → i < j → keep i = true → keep j = true) :
    (List.range n).filter keep = List.range' (n - (List.range n).countP keep)
      ((List.range n).countP keep) := by
  induction n with
  | zero => rfl
  | succ n ih =>
    have hrest := ih fun i j hj => h i j (Nat.lt_succ_of_lt hj)
    rw [List.range_succ, List.filter_append, List.countP_append, hrest]
    cases hn : keep n with
    | true =>
      have hle : (List.range n).countP keep ≤ n := by
        simpa using List.countP_le_length (p := keep) (l := List.range n)
      simp only [hn, List.filter_cons, List.filter_nil, if_true, List.countP_singleton,
        List.range'_concat, one_mul]
      rw [show n + 1 - ((List.range n).countP keep + 1) = n - (List.range n).countP keep by omega,
        show n - (List.range n).countP keep + (List.range n).countP keep = n by omega]
    | false =>
      have hnone : (List.range n).countP keep = 0 := by
        refine List.countP_eq_zero.mpr fun i hi hkeep => ?_
        rw [h i n (Nat.lt_succ_self n) (List.mem_range.mp hi) hkeep] at hn
        cases hn
      simp [hn, hnone]

/-! ### Midpoints -/

/-- A list has one midpoint at most. -/
theorem IsMidpoint.unique {m m' : ℚ} {xs : List ℚ} (h : IsMidpoint m xs) (h' : IsMidpoint m' xs) :
    m = m' := by
  obtain ⟨a, ha, b, hb, hbounds, hm⟩ := h
  obtain ⟨a', ha', b', hb', hbounds', hm'⟩ := h'
  have hfirst : a = a' := le_antisymm (hbounds a' ha').1 (hbounds' a ha).1
  have hlast : b = b' := le_antisymm (hbounds' b hb).2 (hbounds b' hb').2
  linarith

/-- The midpoint of a run of positions at one pitch. -/
theorem isMidpoint_run {w : Nat} (hw : 0 < w) (start : Nat) (left pitch : ℚ) :
    IsMidpoint (left + pitch * (2 * start + w - 1) / 2)
      ((List.range' start w).map fun position : Nat => (position : ℚ) * pitch + left) := by
  have hmem (i : Nat) (hi : start ≤ i ∧ i < start + w) : (i : ℚ) * pitch + left ∈
      (List.range' start w).map fun position : Nat => (position : ℚ) * pitch + left :=
    List.mem_map.mpr ⟨i, List.mem_range'_1.mpr hi, rfl⟩
  -- Every element lies between the ends of the run.
  have hends : ∀ x ∈ (List.range' start w).map fun position : Nat => (position : ℚ) * pitch + left,
      ∃ i : Nat, (start : ℚ) ≤ i ∧ (i : ℚ) ≤ start + w - 1 ∧ x = (i : ℚ) * pitch + left := by
    intro x hx
    obtain ⟨i, hi, rfl⟩ := List.mem_map.mp hx
    obtain ⟨hlow, hhigh⟩ := List.mem_range'_1.mp hi
    refine ⟨i, by exact_mod_cast hlow, ?_, rfl⟩
    have : ((i + 1 : Nat) : ℚ) ≤ ((start + w : Nat) : ℚ) := by exact_mod_cast hhigh
    push_cast at this
    linarith
  have hfirst := hmem start ⟨le_refl _, by omega⟩
  have hlast := hmem (start + w - 1) ⟨by omega, by omega⟩
  have hcast : ((start + w - 1 : Nat) : ℚ) = start + w - 1 := by
    rw [Nat.cast_sub (by omega)]
    push_cast
    ring
  rw [hcast] at hlast
  -- Which end is the least depends on the sign of the pitch.
  rcases le_total 0 pitch with hpitch | hpitch
  · refine ⟨_, hfirst, _, hlast, fun x hx => ?_, by ring⟩
    obtain ⟨i, hlow, hhigh, rfl⟩ := hends x hx
    constructor <;> nlinarith
  · refine ⟨_, hlast, _, hfirst, fun x hx => ?_, by ring⟩
    obtain ⟨i, hlow, hhigh, rfl⟩ := hends x hx
    constructor <;> nlinarith

/-! ### The rows of a block -/

/-- The number printed at a position. -/
def numberAt (seatCount : Nat) (scheme : NumberingScheme) (rowIndex i : Nat) : Nat :=
  match scheme with
  | .oddDescLeft => 2 * (seatCount - i) - 1
  | .evenAscRight => 2 * (i + 1)
  | .hundreds => (rowIndex + 1) * 100 + i + 1
  | .hundredsFlat => 100 + i + 1
  | _ => i + 1

section Numbers

variable {seatCount rowIndex i j : Nat} {scheme : NumberingScheme}

/-- The numbers of a row, position by position. -/
theorem generateSeatNumbers_eq (seatCount : Nat) (scheme : NumberingScheme) (rowIndex : Nat) :
    generateSeatNumbers seatCount scheme rowIndex
      = (List.range seatCount).map (numberAt seatCount scheme rowIndex) := by
  unfold generateSeatNumbers
  refine List.map_congr_left fun i _ => ?_
  cases scheme <;> rfl

/-- Numbers ascend from left to right, -/
theorem numberAt_lt (h : scheme ≠ .oddDescLeft) (hij : i < j) :
    numberAt seatCount scheme rowIndex i < numberAt seatCount scheme rowIndex j := by
  cases scheme with
  | oddDescLeft => exact absurd rfl h
  | evenAscRight => simp only [numberAt]; omega
  | hundreds => simp only [numberAt]; omega
  | hundredsFlat => simp only [numberAt]; omega
  | sequential => simp only [numberAt]; omega
  | other text => simp only [numberAt]; omega

/-- or descend. -/
theorem numberAt_gt (hij : i < j) (hj : j < seatCount) :
    numberAt seatCount .oddDescLeft rowIndex j < numberAt seatCount .oddDescLeft rowIndex i := by
  simp only [numberAt]
  omega

end Numbers

namespace SectionSpec

variable {s : SectionSpec} {i : Nat}

/-- Does a seat stand at the position? -/
def stands (s : SectionSpec) (i position : Nat) : Bool :=
  !s.removes i (numberAt s.seatsPerRow s.numberingScheme i position)

/-- The width of a row counts the positions that stand. -/
theorem width_eq (s : SectionSpec) (i : Nat) :
    s.width i = (List.range s.seatsPerRow).countP (s.stands i) := by
  unfold width printed
  rw [generateSeatNumbers_eq, List.countP_map]
  rfl

/-- The first position of a row that is not removed. -/
def leftmost (s : SectionSpec) (i : Nat) : Nat :=
  if s.numberingScheme = .oddDescLeft then s.seatsPerRow - s.width i else 0

/-- A position's number is printed in its row. -/
theorem printed_mem {position : Nat} (h : position < s.seatsPerRow) :
    numberAt s.seatsPerRow s.numberingScheme i position ∈ s.printed i := by
  unfold printed
  rw [generateSeatNumbers_eq]
  exact List.mem_map_of_mem (List.mem_range.mpr h)

/-- **What remains of a row** is a run of positions: at its left, or, where the numbers descend, at
    its right. -/
theorem TrimmedBlock.positions (h : s.TrimmedBlock) (hi : i < s.rows) :
    (List.range s.seatsPerRow).filter (s.stands i)
      = List.range' (s.leftmost i) (s.width i) := by
  have hhighest {a b : Nat} (ha : a < s.seatsPerRow) (hb : b < s.seatsPerRow)
      (hremoved : s.stands i a = false) (hstands : s.stands i b = true) :
      numberAt s.seatsPerRow s.numberingScheme i b
        < numberAt s.seatsPerRow s.numberingScheme i a :=
    h.highest i hi _ (printed_mem ha) _ (printed_mem hb) (by simpa [stands] using hremoved)
      (by simpa [stands] using hstands)
  rw [width_eq]
  unfold leftmost
  split_ifs with hscheme
  · rw [width_eq]
    refine filter_range_of_upper fun a b hb hab ha => ?_
    by_contra hgone
    have hless := hhighest hb (hab.trans hb) (by simpa using hgone) ha
    rw [hscheme] at hless
    exact absurd (numberAt_gt hab hb) (not_lt.mpr hless.le)
  · rw [← List.range_eq_range']
    refine filter_range_of_lower fun a b hb hab hstands => ?_
    by_contra hgone
    have hless := hhighest (hab.trans hb) hb (by simpa using hgone) hstands
    exact absurd (numberAt_lt hscheme hab) (not_lt.mpr hless.le)

/-- A block with a row has seats in it. -/
theorem TrimmedBlock.seatsPerRow_pos (h : s.TrimmedBlock) (hi : i < s.rows) :
    0 < s.seatsPerRow := by
  have hwidth := h.positive i hi
  rw [width_eq] at hwidth
  by_contra hzero
  rw [Nat.eq_zero_of_not_pos hzero] at hwidth
  simp at hwidth

/-- Every row of the block has the same number of positions. -/
theorem TrimmedBlock.rowCount (h : s.TrimmedBlock) (hi : i < s.rows) :
    (computeRowCounts s.rows s.seatsPerRow s.offsetMode s.altRowSeatDelta).getD i 0
      = s.seatsPerRow := by
  have hpos := h.seatsPerRow_pos hi
  have hcount : (max 1 (s.seatsPerRow : Int)).toNat = s.seatsPerRow := by omega
  simp [computeRowCounts, h.repeated, hi, hcount]

/-- The parameters without the rotation. -/
def flatParams (s : SectionSpec) : SectionParams := { specParams s with rotation := 0 }

/-- Where a seat stands before rotation. -/
theorem seatXy_flat (trig : Trig) (h : s.TrimmedBlock) (i position seatCount : Nat) :
    (seatXy trig s.flatParams i position seatCount).1
      = position * s.seatPitch + (s.originX + i * s.rowXOffset) := by
  have hnoarc : s.flatParams.arcRadius = none := h.straight
  have hnoalt : s.flatParams.offsetMode = .repeated := h.repeated
  have hrotation : s.flatParams.rotation = 0 := rfl
  unfold seatXy rotate
  simp only [hnoarc, hrotation, if_true, gridOrRakedLocal, BoxOffice.rowXOffset, hnoalt, reduceCtorEq,
    if_false]
  show s.originX + (rotationPivotLocal s.flatParams).1
    + ((position * s.seatPitch + i * s.rowXOffset) - (rotationPivotLocal s.flatParams).1) = _
  ring

/-- Mapping over positions keeps their indices. -/
theorem zipIdx_range (n : Nat) (f : Nat → Nat) :
    ((List.range n).map f).zipIdx = (List.range n).map fun position => (f position, position) :=
  List.ext_getElem (by simp) fun i _ _ => by simp

/-- The row that the generator makes. -/
theorem TrimmedBlock.buildRow_xs (h : s.TrimmedBlock) (trig : Trig) (hi : i < s.rows) :
    (buildRow trig s.flatParams [] s.removedSeats s.accessibleSeats i (s.label i)
        s.seatsPerRow).map (·.x)
      = (List.range' (s.leftmost i) (s.width i)).map fun position : Nat =>
          (position : ℚ) * s.seatPitch + (s.originX + i * s.rowXOffset) := by
  have hscheme : s.flatParams.numberingScheme = s.numberingScheme := rfl
  unfold buildRow
  rw [hscheme, generateSeatNumbers_eq, zipIdx_range, ← h.positions hi]
  simp only [List.map_map, List.filter_map]
  refine (congrArg (List.map _) (List.filter_congr fun position _ => rfl)).trans
    (List.map_congr_left fun position _ => ?_)
  exact seatXy_flat trig h i position s.seatsPerRow

/-- Labels tell the rows apart. -/
theorem label_injective {j : Nat} (h : s.label i = s.label j) : i = j :=
  Nat.add_left_cancel
    (rowLabel_injective (rowLetters_pos s.rowLabelScheme) (rowLetters_nodup s.rowLabelScheme) h)

/-- A sum with one nonzero entry is that entry. -/
theorem flatMap_single {α : Type*} {l : List Nat} (hnodup : l.Nodup) (hi : i ∈ l)
    {f : Nat → List α} (h : ∀ j, j ≠ i → f j = []) : l.flatMap f = f i := by
  induction l with
  | nil => cases hi
  | cons j l ih =>
    obtain ⟨hj, hrest⟩ := List.nodup_cons.mp hnodup
    rw [List.flatMap_cons]
    rcases List.mem_cons.mp hi with rfl | hmem
    · have hnone : l.flatMap f = [] :=
        List.flatMap_eq_nil_iff.mpr fun k hk => h k fun heq => hj (heq ▸ hk)
      rw [hnone, List.append_nil]
    · rw [h j fun heq => hj (heq ▸ hmem), ih hrest hmem, List.nil_append]

/-- **Where the seats of a row stand.** -/
theorem TrimmedBlock.rowXs (h : s.TrimmedBlock) (trig : Trig) (hi : i < s.rows) :
    s.rowXs trig i = (List.range' (s.leftmost i) (s.width i)).map fun position : Nat =>
      (position : ℚ) * s.seatPitch + (s.originX + i * s.rowXOffset) := by
  have hrows := buildSeats_eq_range trig s.flatParams s.removedSeats s.accessibleSeats
  have hseats : s.unrotatedSeats trig = (List.range s.rows).flatMap fun j =>
      buildRow trig s.flatParams [] s.removedSeats s.accessibleSeats j (s.label j)
        ((computeRowCounts s.rows s.seatsPerRow s.offsetMode s.altRowSeatDelta).getD j 0) := hrows
  unfold SectionSpec.rowXs
  rw [hseats, List.filter_flatMap, flatMap_single List.nodup_range (List.mem_range.mpr hi)]
  · rw [h.rowCount hi, ← h.buildRow_xs trig hi, List.filter_eq_self.mpr]
    intro seat hseat
    simp [(mem_buildRow hseat).1]
  · intro j hj
    refine List.filter_eq_nil_iff.mpr fun seat hseat => ?_
    rw [(mem_buildRow hseat).1]
    simpa using fun heq => hj (label_injective heq)

/-- The midpoint of a row. -/
def middle (s : SectionSpec) (i : Nat) : ℚ :=
  s.originX + i * s.rowXOffset + s.seatPitch * (2 * s.leftmost i + s.width i - 1) / 2

/-- The middle of a row is the midpoint of its seats. -/
theorem TrimmedBlock.isMidpoint (h : s.TrimmedBlock) (trig : Trig) (hi : i < s.rows) :
    IsMidpoint (s.middle i) (s.rowXs trig i) :=
  h.rowXs trig hi ▸ isMidpoint_run (h.positive i hi) _ _ _

/-- A block is centred if and only if its rows have one middle. -/
theorem TrimmedBlock.centred_iff (h : s.TrimmedBlock) (trig : Trig) :
    s.Centred trig ↔ ∀ i < s.rows, s.middle i = s.middle 0 := by
  constructor
  · rintro ⟨m, hm⟩ i hi
    have hfront := (hm 0 (by omega)).unique (h.isMidpoint trig (by omega))
    exact ((h.isMidpoint trig hi).unique (hm i hi)).trans hfront
  · exact fun hsame => ⟨s.middle 0, fun i hi => hsame i hi ▸ h.isMidpoint trig hi⟩

/-! ### The offset of a block -/

/-- The widths that `_derived_center_offset` counts are the widths of the rows. -/
theorem TrimmedBlock.counted (h : s.TrimmedBlock) (hlisted : s.ListedOnce) (hi : i < s.rows) :
    (s.seatsPerRow - s.removedSeats.countP fun seat => seat.1 == s.label i) = s.width i := by
  -- The seats that are gone from a row are those that the list of removed ones has for its label.
  have hgone : (((s.printed i).filter (s.removes i)).map fun a => (s.label i, toString a)).Perm
      (s.removedSeats.filter fun seat => seat.1 == s.label i) := by
    refine (List.perm_ext_iff_of_nodup ?_ (hlisted i hi)).mpr fun seat => ?_
    · refine List.Nodup.map_on (fun a _ b _ heq => Numeric.toString_injective (Prod.ext_iff.mp heq).2) ?_
      exact (generateSeatNumbers_nodup s.seatsPerRow s.numberingScheme i).filter _
    · obtain ⟨label, number⟩ := seat
      simp only [List.mem_map, List.mem_filter, Prod.mk.injEq, beq_iff_eq, removes,
        List.contains_iff_mem]
      constructor
      · rintro ⟨a, ⟨-, hremoved⟩, rfl, rfl⟩
        exact ⟨hremoved, rfl⟩
      · rintro ⟨hseat, rfl⟩
        obtain ⟨a, ha, rfl⟩ := h.known i hi number hseat
        exact ⟨a, ⟨ha, hseat⟩, rfl, rfl⟩
  have hcount : (s.removedSeats.countP fun seat => seat.1 == s.label i)
      = (s.printed i).countP (s.removes i) := by
    rw [List.countP_eq_length_filter, ← hgone.length_eq, List.length_map,
      List.countP_eq_length_filter]
  -- What a row prints is what is removed and what is left.
  have hsplit := List.length_eq_countP_add_countP (s.removes i) (l := s.printed i)
  have hprinted : (s.printed i).length = s.seatsPerRow := by
    simp [printed, generateSeatNumbers]
  have hwidth : s.width i = (s.printed i).countP fun a => decide ¬ s.removes i a = true := by
    unfold width
    congr 1
    funext a
    cases s.removes i a <;> rfl
  omega

/-- The occupied rows of a block that lists each removed seat once. -/
theorem TrimmedBlock.occupied (h : s.TrimmedBlock) (hlisted : s.ListedOnce) :
    s.occupied = (List.range s.rows).map fun i => (s.width i, i) := by
  have hwidths : (generateRowLabels s.rows s.rowLabelScheme s.rowLabelStart).map (fun label =>
      s.seatsPerRow - s.removedSeats.countP fun seat => seat.1 == label)
        = (List.range s.rows).map s.width := by
    unfold generateRowLabels
    rw [List.map_map]
    exact List.map_congr_left fun i hi => h.counted hlisted (List.mem_range.mp hi)
  unfold SectionSpec.occupied occupiedRows
  rw [hwidths, zipIdx_range, List.filter_eq_self]
  intro row hrow
  obtain ⟨i, hi, rfl⟩ := List.mem_map.mp hrow
  simpa using h.positive i (List.mem_range.mp hi)

/-- **The offset of a block** takes half a seat back for every seat that a row is wider. -/
theorem TrimmedBlock.offset (h : s.TrimmedBlock) (hlisted : s.ListedOnce) {slope : ℚ}
    (hlinear : ∀ i < s.rows, (s.width i : ℚ) = s.width 0 + slope * i)
    (hcap : |s.seatPitch * slope / 2| ≤ 2) (hrows : 2 ≤ s.rows) :
    derivedCenterOffset s = -(s.seatPitch * slope / 2) := by
  obtain ⟨more, hmore⟩ := Nat.exists_eq_add_of_le' hrows
  have hoccupied : s.occupied = (s.width 0, 0) :: (s.width 1, 1) ::
      (List.range more).map fun i => (s.width (i + 2), i + 2) := by
    rw [h.occupied hlisted, hmore, List.range_succ_eq_map, List.range_succ_eq_map]
    simp [Function.comp_def]
  have hrow (row : Nat × Nat) (hmem : row ∈ s.occupied) :
      (row.1 : ℚ) = s.width 0 + slope * row.2 := by
    rw [h.occupied hlisted] at hmem
    obtain ⟨i, hi, rfl⟩ := List.mem_map.mp hmem
    exact hlinear i (List.mem_range.mp hi)
  -- Whichever row anchors the line, the rows are on it.
  have hslope : rowSlope (s.width 0, 0) (anchorRow (s.width 0, 0) (s.width 1, 1)
      ((List.range more).map fun i => (s.width (i + 2), i + 2))) = slope := by
    obtain ⟨hmem, hne⟩ := anchorRow_mem (hoccupied ▸ occupied_indices s)
    have hline := hrow _ (hoccupied ▸ List.mem_cons_of_mem _ hmem)
    refine rowSlope_of_line ?_ hne
    rw [hline]
    simp
  have hfits : fittingRows (s.width 0, 0) slope s.occupied = s.occupied.length := by
    refine List.countP_eq_length.mpr fun row hmem => ?_
    rw [hrow row hmem]
    norm_num
  rw [derivedCenterOffset_eq h.repeated hoccupied]
  simp only [hslope]
  rw [← hoccupied, hfits, if_neg (by linarith [Nat.cast_nonneg (α := ℚ) s.occupied.length])]
  obtain ⟨hlow, hhigh⟩ := abs_le.mp hcap
  rw [min_eq_right (by linarith), max_eq_right (by linarith)]
  ring

/-- Where the midpoint of a row is, against the front row. -/
theorem middle_eq {slope : ℚ}
    (hlinear : ∀ i < s.rows, (s.width i : ℚ) = s.width 0 + slope * i) (hi : i < s.rows) :
    s.middle i = s.middle 0 + i * (s.rowXOffset +
      (if s.numberingScheme = .oddDescLeft then -1 else 1) * (s.seatPitch * slope / 2)) := by
  have hwidth (j : Nat) : s.width j ≤ s.seatsPerRow := by
    rw [width_eq]
    simpa using List.countP_le_length (p := s.stands j) (l := List.range s.seatsPerRow)
  unfold middle leftmost
  split_ifs
  · rw [Nat.cast_sub (hwidth i), Nat.cast_sub (hwidth 0), hlinear i hi]
    push_cast
    ring
  · rw [hlinear i hi]
    push_cast
    ring

/-- The folded offset centres a block, unless the numbers descend and the widths differ. -/
theorem TrimmedBlock.centred_iff_scheme (h : s.TrimmedBlock) (hlisted : s.ListedOnce)
    (hoffset : s.rowXOffset = derivedCenterOffset s) (hpitch : s.seatPitch ≠ 0) (trig : Trig) :
    s.Centred trig ↔ s.numberingScheme ≠ .oddDescLeft ∨ s.EqualWidths := by
  obtain ⟨slope, hlinear, hcap⟩ := h.linear
  rw [h.centred_iff trig]
  by_cases hrows : 2 ≤ s.rows
  · have hmiddle (i : Nat) (hi : i < s.rows) := middle_eq hlinear hi
    rw [hoffset, h.offset hlisted hlinear hcap hrows] at hmiddle
    by_cases hscheme : s.numberingScheme = .oddDescLeft
    · -- The offset doubles what it should undo.
      simp only [hscheme, if_true] at hmiddle
      rw [or_iff_right (fun hne => hne hscheme)]
      constructor
      · intro hsame i hi
        have hzero : slope = 0 := by
          have hfront := (hmiddle 1 hrows).symm.trans (hsame 1 hrows)
          have hproduct : s.seatPitch * slope = 0 := by push_cast at hfront; linarith
          exact (mul_eq_zero.mp hproduct).resolve_left hpitch
        have hline := hlinear i hi
        rw [hzero] at hline
        have hcast : (s.width i : ℚ) = s.width 0 := by linarith
        exact_mod_cast hcast
      · intro hequal i hi
        have hzero : slope = 0 := by
          -- Equal widths leave nothing to be centred, with whatever offset.
          have hline := hlinear 1 hrows
          rw [hequal 1 hrows] at hline
          push_cast at hline
          linarith
        rw [hmiddle i hi, hzero]
        ring
    · simp only [hscheme, if_false] at hmiddle
      refine iff_of_true (fun i hi => ?_) (Or.inl hscheme)
      rw [hmiddle i hi]
      ring
  · have hfront {i : Nat} (hi : i < s.rows) : i = 0 := by omega
    exact iff_of_true (fun i hi => hfront hi ▸ rfl) (Or.inr fun i hi => hfront hi ▸ rfl)

end SectionSpec

/-! ### Validated sections -/

/-- A pitch is never zero. -/
theorem asPitch_ne_zero (value : Option ℚ) : asPitch value ≠ 0 := by
  unfold asPitch
  split_ifs with h
  · norm_num
  · exact h

/-- A validated section has a pitch. -/
theorem validateSection_seatPitch (raw : RawSection) (name : String) :
    (validateSection raw name).seatPitch ≠ 0 := by
  unfold validateSection
  dsimp only
  split_ifs <;> exact asPitch_ne_zero _

/-- Centre alignment is folded into the offset. -/
theorem validateSection_folded {raw : RawSection} (hcenter : raw.rowAlignment = some .center)
    (hfree : raw.rowXOffset.getD 0 = 0) (name : String) :
    (validateSection raw name).rowXOffset = derivedCenterOffset (validateSection raw name) := by
  unfold validateSection
  dsimp only
  rw [if_pos ⟨hcenter, hfree⟩]
  rfl

section Floats

variable {F : Type} (py : Builtins F)

/-- A float within the cap: zero, either end, or between them.  It is a number. -/
def WithinCap (x : F) : Prop :=
  x = py.lit 0 ∨ x = py.lit (-2) ∨ x = py.lit 2 ∨
    (py.lt (py.lit (-2)) x = true ∧ py.lt x (py.lit 2) = true)

/-- Whatever the pitch is, infinities and NaN included. -/
theorem derivedCenterOffsetJson_within (s : SectionSpecJson F) :
    WithinCap py (derivedCenterOffsetJson py s) := by
  have hcapped (x : F) : WithinCap py (py.max (py.lit (-2)) (py.min (py.lit 2) x)) := by
    unfold Floats.max Floats.min WithinCap
    split_ifs with hhigh hlow hlow
    · exact .inr (.inr (.inr ⟨hlow, hhigh⟩))
    · exact .inr (.inl rfl)
    · exact .inr (.inr (.inl rfl))
    · exact .inr (.inl rfl)
  unfold derivedCenterOffsetJson
  split_ifs
  · exact .inl rfl
  · dsimp only
    split
    · split_ifs <;> first | exact hcapped _ | exact .inl rfl
    · exact .inl rfl

end Floats

/-- **Centre alignment.** In a validated section whose rows have lost their highest numbers, each
    listed once, the folded offset centres the rows if the numbers do not descend or all rows are
    equally wide, and only then.  Every offset is within its cap, over the rationals and over
    floats, and divides by no zero. -/
theorem center_alignment_iff (trig : Trig) (raw : RawSection) (name : String) :
    (raw.rowAlignment = some .center → raw.rowXOffset.getD 0 = 0 →
      (validateSection raw name).TrimmedBlock →
      ((validateSection raw name).ListedOnce ∧
          ((validateSection raw name).numberingScheme ≠ .oddDescLeft ∨
            (validateSection raw name).EqualWidths) →
        (validateSection raw name).Centred trig) ∧
      ((validateSection raw name).ListedOnce → (validateSection raw name).Centred trig →
        (validateSection raw name).numberingScheme ≠ .oddDescLeft ∨
          (validateSection raw name).EqualWidths)) ∧
    (validateSection raw name).OffsetSound ∧
    ∀ (F : Type) (py : Builtins F) (s : SectionSpecJson F),
      WithinCap py (derivedCenterOffsetJson py s) := by
  refine ⟨fun hcenter hfree hblock => ?_, offsetSound _,
    fun F py s => derivedCenterOffsetJson_within py s⟩
  have hiff (hlisted : (validateSection raw name).ListedOnce) :=
    hblock.centred_iff_scheme hlisted (validateSection_folded hcenter hfree name)
      (validateSection_seatPitch raw name) trig
  exact ⟨fun h => (hiff h.1).mpr h.2, fun hlisted => (hiff hlisted).mp⟩

/-- Two rows of four seats of which the front one has lost a seat. -/
def raggedBlock (scheme : NumberingScheme) (number : String) : RawSection where
  name := "Stalls"
  tier := ""
  rows := some 2
  seatsPerRow := some 4
  originX := none
  originY := none
  rotation := none
  seatPitch := none
  rowPitch := none
  arcRadius := none
  offsetMode := none
  rowXOffset := none
  altRowSeatDelta := none
  numberingScheme := some scheme
  rowLabelScheme := none
  rowLabelStart := none
  removedSeats := [("A", number)]
  accessibleSeats := []
  rowAlignment := some .center

/-- The block has lost its highest number, at the right or, where the numbers descend, at the
    left. -/
theorem raggedBlock_trimmed {scheme : NumberingScheme} {number : String}
    (h : (scheme, number) = (.sequential, "4") ∨ (scheme, number) = (.oddDescLeft, "7")) :
    (validateSection (raggedBlock scheme number) "Stalls").TrimmedBlock ∧
      (validateSection (raggedBlock scheme number) "Stalls").ListedOnce := by
  have hlisted : ∀ i < 2, ([("A", number)].filter fun seat =>
      seat.1 == (validateSection (raggedBlock scheme number) "Stalls").label i).Nodup :=
    fun i _ => (List.nodup_singleton _).filter _
  have hrow (hfront : (validateSection (raggedBlock scheme number) "Stalls").label 0 = "A")
      (i : Nat) (n : String)
      (hmem : ((validateSection (raggedBlock scheme number) "Stalls").label i, n)
        ∈ [("A", number)]) : i = 0 ∧ n = number := by
    obtain ⟨hlabel, hnumber⟩ := Prod.mk.inj (List.mem_singleton.mp hmem)
    exact ⟨SectionSpec.label_injective (hlabel.trans hfront.symm), hnumber⟩
  refine ⟨?_, hlisted⟩
  rcases h with h | h
  · obtain ⟨rfl, rfl⟩ := Prod.mk.inj h
    refine ⟨by decide +kernel, by decide +kernel, fun i _ n hmem => ?_, by decide +kernel,
      by decide +kernel, 1, by decide +kernel, by decide +kernel⟩
    obtain ⟨rfl, rfl⟩ := hrow (by decide +kernel) i n hmem
    exact ⟨4, by decide +kernel, by decide +kernel⟩
  · obtain ⟨rfl, rfl⟩ := Prod.mk.inj h
    refine ⟨by decide +kernel, by decide +kernel, fun i _ n hmem => ?_, by decide +kernel,
      by decide +kernel, 1, by decide +kernel, by decide +kernel⟩
    obtain ⟨rfl, rfl⟩ := hrow (by decide +kernel) i n hmem
    exact ⟨7, by decide +kernel, by decide +kernel⟩

/-- With ascending numbers the rows are centred. -/
theorem center_alignment_ragged :
    (validateSection (raggedBlock .sequential "4") "Stalls").Centred flatTrig :=
  ((center_alignment_iff flatTrig (raggedBlock .sequential "4") "Stalls").1 rfl rfl
    (raggedBlock_trimmed (Or.inl rfl)).1).1 ⟨(raggedBlock_trimmed (Or.inl rfl)).2,
      Or.inl (by decide +kernel)⟩

/-- **The counterexample.** With descending numbers the front row has lost its left end, and the
    back row is moved to the left, away from it. -/
theorem descending_block_not_centred :
    (raggedBlock .oddDescLeft "7").rowAlignment = some .center ∧
    (raggedBlock .oddDescLeft "7").rowXOffset.getD 0 = 0 ∧
    (validateSection (raggedBlock .oddDescLeft "7") "Stalls").TrimmedBlock ∧
    (validateSection (raggedBlock .oddDescLeft "7") "Stalls").ListedOnce ∧
    (validateSection (raggedBlock .oddDescLeft "7") "Stalls").rowXs flatTrig 0 = [1, 2, 3] ∧
    (validateSection (raggedBlock .oddDescLeft "7") "Stalls").rowXs flatTrig 1
      = [-1 / 2, 1 / 2, 3 / 2, 5 / 2] ∧
    ¬ (validateSection (raggedBlock .oddDescLeft "7") "Stalls").Centred flatTrig := by
  obtain ⟨hblock, hlisted⟩ := raggedBlock_trimmed (Or.inr rfl)
  refine ⟨rfl, rfl, hblock, hlisted, by decide +kernel, by decide +kernel, ?_⟩
  rw [hblock.centred_iff flatTrig]
  exact fun hsame => absurd (hsame 1 (by decide +kernel)) (by decide +kernel)

end BoxOffice
