import BoxOffice.Scanning.FinderRows
import Mathlib.Data.List.Pairwise

namespace BoxOffice

open Loops

/-!
# Scanning — clean frames

Frames that consist of finder squares, and what the counter does with a window of a row of one.

* `FinderSquare`, `CleanFrame` — concentric squares that do not touch, on light background;
* `CleanFrame.px_near` — around a square the frame is that square;
* `CleanFrame.tryRowCandidate_square` — a row through the middle of a square hits its centre;
* `CleanFrame.tryRowCandidate_window` — no other window of any row hits anything.
-/

/-- A finder square: its corner and its module size. -/
structure FinderSquare where
  x : Nat
  y : Nat
  m : Nat
  two_le : 2 ≤ m
deriving Repr, DecidableEq

namespace FinderSquare

/-- The modules from `lo` up to `hi` in both directions. -/
def InBox (s : FinderSquare) (lo hi : Nat) (x y : Int) : Prop :=
  s.x + lo * s.m ≤ x ∧ x < s.x + hi * s.m ∧ s.y + lo * s.m ≤ y ∧ y < s.y + hi * s.m

/-- The dark square of seven modules, but for the light one of five around the dark one of
    three. -/
def Dark (s : FinderSquare) (x y : Int) : Prop :=
  s.InBox 0 7 x y ∧ (s.InBox 1 6 x y → s.InBox 2 5 x y)

/-- A light row or column lies between the squares. -/
def Apart (s t : FinderSquare) : Prop :=
  s.x + 7 * s.m < t.x ∨ t.x + 7 * t.m < s.x ∨ s.y + 7 * s.m < t.y ∨ t.y + 7 * t.m < s.y

/-- The row goes through the inner square. -/
def Crosses (s : FinderSquare) (y : Nat) : Prop := s.y + 2 * s.m ≤ y ∧ y < s.y + 5 * s.m

instance (s : FinderSquare) (lo hi : Nat) (x y : Int) : Decidable (s.InBox lo hi x y) :=
  inferInstanceAs (Decidable (_ ∧ _))

instance (s : FinderSquare) (x y : Int) : Decidable (s.Dark x y) :=
  inferInstanceAs (Decidable (_ ∧ _))

instance (s t : FinderSquare) : Decidable (s.Apart t) := inferInstanceAs (Decidable (_ ∨ _))

instance (s : FinderSquare) (y : Nat) : Decidable (s.Crosses y) :=
  inferInstanceAs (Decidable (_ ∧ _))

def centerX (s : FinderSquare) : ℚ := s.x + 7 * s.m / 2

def centerY (s : FinderSquare) : ℚ := s.y + 7 * s.m / 2

instance : Std.Symm Apart where
  symm s t h := by
    unfold Apart at h ⊢
    omega

/-- The dark pixels of a square, by their bounds. -/
theorem dark_iff {s : FinderSquare} {x y : Int} : s.Dark x y ↔
    (s.x ≤ x ∧ x < s.x + 7 * s.m ∧ s.y ≤ y ∧ y < s.y + 7 * s.m) ∧
      (s.x + s.m ≤ x ∧ x < s.x + 6 * s.m ∧ s.y + s.m ≤ y ∧ y < s.y + 6 * s.m →
        s.x + 2 * s.m ≤ x ∧ x < s.x + 5 * s.m ∧ s.y + 2 * s.m ≤ y ∧ y < s.y + 5 * s.m) := by
  unfold Dark InBox
  push_cast
  simp only [zero_mul, add_zero, one_mul]

end FinderSquare

/-- A binarized frame of finder squares. -/
structure CleanFrame {width height : Nat} (bitmap : Vector Bool (width * height))
    (squares : List FinderSquare) : Prop where
  inside : ∀ s ∈ squares, s.x + 7 * s.m ≤ width ∧ s.y + 7 * s.m ≤ height
  apart : squares.Pairwise FinderSquare.Apart
  cells : ∀ x < width, ∀ y < height,
    (bitmap.getD (y * width + x) false = true ↔ ∃ s ∈ squares, s.Dark x y)

namespace CleanFrame

variable {width height : Nat} {bitmap : Vector Bool (width * height)}
  {squares : List FinderSquare} {s t : FinderSquare}

/-! ### Around a square -/

/-- A pixel is dark if and only if one of the squares has it so. -/
theorem px_iff (h : CleanFrame bitmap squares) {x y : Int} :
    px bitmap x y = true ↔ ∃ s ∈ squares, s.Dark x y := by
  by_cases hout : x < 0 ∨ y < 0 ∨ x ≥ width ∨ y ≥ height
  · rw [px_eq_false hout]
    refine iff_of_false Bool.false_ne_true ?_
    rintro ⟨s, hs, hdark⟩
    have hin := h.inside s hs
    rw [FinderSquare.dark_iff] at hdark
    omega
  · have hcells := h.cells x.toNat (by omega) y.toNat (by omega)
    rw [Int.toNat_of_nonneg (by omega), Int.toNat_of_nonneg (by omega)] at hcells
    unfold px
    rwa [if_neg hout]

/-- Up to one pixel around a square there is no other. -/
theorem px_near (h : CleanFrame bitmap squares) (hs : s ∈ squares) {x y : Int}
    (hx : s.x - 1 ≤ x) (hx' : x ≤ s.x + 7 * s.m) (hy : s.y - 1 ≤ y) (hy' : y ≤ s.y + 7 * s.m) :
    px bitmap x y = true ↔ s.Dark x y := by
  rw [h.px_iff]
  constructor
  · rintro ⟨t, ht, hdark⟩
    by_cases heq : s = t
    · rwa [heq]
    · -- Another square would be less than a pixel away.
      have hapart := h.apart.forall hs ht heq
      rw [FinderSquare.dark_iff] at hdark
      unfold FinderSquare.Apart at hapart
      omega
  · exact fun hdark => ⟨s, hs, hdark⟩

/-- In the rows of a square and one pixel around it, only that square is dark. -/
theorem row_near (h : CleanFrame bitmap squares) (hs : s ∈ squares) {x y : Nat} (hy : s.y ≤ y)
    (hy' : y < s.y + 7 * s.m) (hx : s.x ≤ x + 1) (hx' : x ≤ s.x + 7 * s.m) :
    rowCell bitmap y x = true ↔ s.Dark x y := by
  have hin := h.inside s hs
  rw [rowCell_eq_px (by omega)]
  exact h.px_near hs (by omega) (by omega) (by omega) (by omega)

/-! ### Lines through a square -/

/-- A column through the middle of a square shows the finder pattern. -/
theorem column_line (h : CleanFrame bitmap squares) (hs : s ∈ squares) {x : Int}
    (hx : s.x + 2 * s.m ≤ x) (hx' : x < s.x + 5 * s.m) :
    FinderLine (fun y => px bitmap x y) s.y s.m := by
  intro y hy hy'
  rw [h.px_near hs (by omega) (by omega) hy hy', FinderSquare.dark_iff]
  omega

/-- So does a row through the middle. -/
theorem row_line (h : CleanFrame bitmap squares) (hs : s ∈ squares) {y : Int}
    (hy : s.y + 2 * s.m ≤ y) (hy' : y < s.y + 5 * s.m) :
    FinderLine (fun x => px bitmap x y) s.x s.m := by
  intro x hx hx'
  rw [h.px_near hs hx hx' (by omega) (by omega), FinderSquare.dark_iff]
  omega

/-- So does a diagonal close to the middle. -/
theorem diagonal_line (h : CleanFrame bitmap squares) (hs : s ∈ squares) (k : Int) :
    FinderLine (fun t => px bitmap (s.x + k + t) (s.y + k + t)) (-k) s.m := by
  intro t ht ht'
  rw [h.px_near hs (by omega) (by omega) (by omega) (by omega), FinderSquare.dark_iff]
  omega

/-! ### Runs of a row -/

/-- A dark run within a square is a whole run of the row. -/
theorem dark_run (h : CleanFrame bitmap squares) (hs : s ∈ squares) {y b n : Nat} (hy : s.y ≤ y)
    (hy' : y < s.y + 7 * s.m) (hb : s.x ≤ b) (hbn : b + n ≤ s.x + 7 * s.m) (hn : 0 < n)
    (hrun : ∀ i : Nat, b ≤ i → i < b + n → s.Dark i y) (hleft : ∀ i : Nat, i + 1 = b → ¬s.Dark i y)
    (hright : ¬s.Dark (b + n : Nat) y) : IsRun (rowCell bitmap y) b n := by
  refine isRun_of_eq hn (c := true) (fun i hi hi' => ?_) ?_ fun hcell => ?_
  · exact (h.row_near hs hy hy' (by omega) (by omega)).mpr (hrun i hi hi')
  · rcases Nat.eq_zero_or_pos b with hzero | hpos
    · exact Or.inl hzero
    · refine Or.inr fun hcell => hleft (b - 1) (by omega) ?_
      exact (h.row_near hs hy hy' (by omega) (by omega)).mp hcell
  · exact hright ((h.row_near hs hy hy' (by omega) hbn).mp hcell)

/-- So is a light run between two dark ones. -/
theorem light_run (h : CleanFrame bitmap squares) (hs : s ∈ squares) {y b n : Nat} (hy : s.y ≤ y)
    (hy' : y < s.y + 7 * s.m) (hb : s.x < b) (hbn : b + n ≤ s.x + 7 * s.m) (hn : 0 < n)
    (hrun : ∀ i : Nat, b ≤ i → i < b + n → ¬s.Dark i y) (hleft : s.Dark (b - 1 : Nat) y)
    (hright : s.Dark (b + n : Nat) y) : IsRun (rowCell bitmap y) b n := by
  refine isRun_of_eq hn (c := false) (fun i hi hi' => ?_) (Or.inr ?_) ?_
  · refine Bool.eq_false_iff.mpr fun hcell => hrun i hi hi' ?_
    exact (h.row_near hs hy hy' (by omega) (by omega)).mp hcell
  · rw [(h.row_near hs hy hy' (by omega) (by omega)).mpr hleft]
    exact fun h => Bool.noConfusion h
  · rw [(h.row_near hs hy hy' (by omega) hbn).mpr hright]
    exact fun h => Bool.noConfusion h

/-- A row through the upper or the lower wall. -/
theorem wall_run (h : CleanFrame bitmap squares) (hs : s ∈ squares) {y : Nat}
    (hy : s.y ≤ y ∧ y < s.y + s.m ∨ s.y + 6 * s.m ≤ y ∧ y < s.y + 7 * s.m) :
    IsRun (rowCell bitmap y) s.x (7 * s.m) := by
  have hm := s.two_le
  refine h.dark_run hs (by omega) (by omega) le_rfl le_rfl (by omega) (fun i hi hi' => ?_)
    (fun i hi => ?_) ?_ <;> rw [FinderSquare.dark_iff] <;> omega

/-- A row through the upper or the lower part of the ring. -/
theorem ring_runs (h : CleanFrame bitmap squares) (hs : s ∈ squares) {y : Nat}
    (hy : s.y + s.m ≤ y ∧ y < s.y + 2 * s.m ∨ s.y + 5 * s.m ≤ y ∧ y < s.y + 6 * s.m) :
    IsRun (rowCell bitmap y) s.x s.m ∧ IsRun (rowCell bitmap y) (s.x + s.m) (5 * s.m) ∧
      IsRun (rowCell bitmap y) (s.x + 6 * s.m) s.m := by
  have hm := s.two_le
  refine ⟨h.dark_run hs (by omega) (by omega) (by omega) (by omega) (by omega) (fun i hi hi' => ?_)
      (fun i hi => ?_) ?_,
    h.light_run hs (by omega) (by omega) (by omega) (by omega) (by omega) (fun i hi hi' => ?_)
      ?_ ?_,
    h.dark_run hs (by omega) (by omega) (by omega) (by omega) (by omega) (fun i hi hi' => ?_)
      (fun i hi => ?_) ?_⟩ <;> rw [FinderSquare.dark_iff] <;> omega

/-- A row through the inner square. -/
theorem square_window (h : CleanFrame bitmap squares) (hs : s ∈ squares) {y : Nat}
    (hy : s.Crosses y) : WindowAt (rowCell bitmap y) s.x (squareWindow s.m) := by
  have hm := s.two_le
  obtain ⟨hlow, hhigh⟩ := hy
  have hwall : IsRun (rowCell bitmap y) s.x s.m := by
    refine h.dark_run hs (by omega) (by omega) le_rfl (by omega) (by omega) (fun i hi hi' => ?_)
      (fun i hi => ?_) ?_ <;> rw [FinderSquare.dark_iff] <;> omega
  have hring : IsRun (rowCell bitmap y) (s.x + s.m) s.m := by
    refine h.light_run hs (by omega) (by omega) (by omega) (by omega) (by omega)
      (fun i hi hi' => ?_) ?_ ?_ <;> rw [FinderSquare.dark_iff] <;> omega
  have hinner : IsRun (rowCell bitmap y) (s.x + s.m + s.m) (3 * s.m) := by
    refine h.dark_run hs (by omega) (by omega) (by omega) (by omega) (by omega)
      (fun i hi hi' => ?_) (fun i hi => ?_) ?_ <;> rw [FinderSquare.dark_iff] <;> omega
  have hring' : IsRun (rowCell bitmap y) (s.x + s.m + s.m + 3 * s.m) s.m := by
    refine h.light_run hs (by omega) (by omega) (by omega) (by omega) (by omega)
      (fun i hi hi' => ?_) ?_ ?_ <;> rw [FinderSquare.dark_iff] <;> omega
  have hwall' : IsRun (rowCell bitmap y) (s.x + s.m + s.m + 3 * s.m + s.m) s.m := by
    refine h.dark_run hs (by omega) (by omega) (by omega) (by omega) (by omega)
      (fun i hi hi' => ?_) (fun i hi => ?_) ?_ <;> rw [FinderSquare.dark_iff] <;> omega
  have hdark : s.Dark (s.x + s.m + s.m + 3 * s.m + s.m : Nat) y := by
    rw [FinderSquare.dark_iff]
    omega
  have hlast : rowCell bitmap y (s.x + s.m + s.m + 3 * s.m + s.m) = true :=
    (h.row_near hs (by omega) (by omega) (by omega) (by omega)).mpr hdark
  exact ⟨hwall, hring, hinner, hring', hwall', hlast⟩

/-! ### Candidates -/

/-- The column of a candidate is the middle of its third run. -/
theorem candidate_center {a : Nat} {r : RunWindow} :
    ((a + r.total : Nat) : ℚ) - r.r4 - r.r3 - r.r2 / 2 = ((a + r.r0 + r.r1 : Nat) : ℚ) + r.r2 / 2 := by
  rw [add_total]
  push_cast
  ring

/-- A window without the ratios adds no center. -/
theorem tryRowCandidate_of_ratio {r : RunWindow} {x y : Nat} {centers : List Center}
    (h : checkRatio r = 0) : tryRowCandidate bitmap r x y centers = centers := by
  unfold tryRowCandidate
  exact if_pos h

/-- Nor does one that fails the vertical check. -/
theorem tryRowCandidate_of_vertical {r : RunWindow} {x y : Nat} {centers : List Center}
    (h : crossCheckVertical bitmap (mathRound ((x : ℚ) - r.r4 - r.r3 - r.r2 / 2)) y r.r2 r.total
      = none) : tryRowCandidate bitmap r x y centers = centers := by
  unfold tryRowCandidate
  dsimp only
  rw [h]
  exact ite_self _

/-- A window that passes every check. -/
theorem tryRowCandidate_of_checks {r : RunWindow} {x y : Nat} {centers : List Center}
    {centerX centerY refinedX : ℚ} (hratio : checkRatio r ≠ 0)
    (hcenter : (x : ℚ) - r.r4 - r.r3 - r.r2 / 2 = centerX)
    (hvertical : crossCheckVertical bitmap (mathRound centerX) y r.r2 r.total = some centerY)
    (hhorizontal : crossCheckHorizontal bitmap (mathRound centerX) (mathRound centerY) r.r2 r.total
      = some refinedX)
    (hdiagonal : crossCheckDiagonal bitmap (mathRound refinedX) (mathRound centerY) r.r2 = true) :
    tryRowCandidate bitmap r x y centers = addCenter refinedX centerY (checkRatio r) centers := by
  unfold tryRowCandidate
  dsimp only
  rw [if_neg hratio, hcenter, hvertical]
  dsimp only
  rw [hhorizontal]
  dsimp only
  rw [if_pos hdiagonal]

/-- In a row through an outer wall the column of the middle is out of ratio. -/
theorem vertical_wall (h : CleanFrame bitmap squares) (hs : s ∈ squares) {y maxCount total : Nat}
    (hy : s.y ≤ y ∧ y < s.y + s.m ∨ s.y + 6 * s.m ≤ y ∧ y < s.y + 7 * s.m)
    (hmax : 3 * s.m ≤ maxCount) :
    crossCheckVertical bitmap (mathRound s.centerX) y maxCount total = none := by
  have hm := s.two_le
  have hin := h.inside s hs
  obtain ⟨hlow, hhigh⟩ := mathRound_middle (m := s.m) (by omega)
  have hx : mathRound s.centerX = s.x + mathRound (7 * s.m / 2) := mathRound_add s.x _
  have hline := @column_line _ _ _ _ s h hs (mathRound s.centerX) (by omega) (by omega)
  unfold crossCheckVertical
  rcases hy with ⟨hy, hy'⟩ | ⟨hy, hy'⟩
  · exact hline.crossCheck_first (by omega) (by omega) (by omega) (by omega) hmax
  · exact hline.crossCheck_last (by omega) (by omega) (by omega) (by omega) hmax

/-- **A hit.** The window of a row through the middle of a square gives its centre and its module
    size. -/
theorem tryRowCandidate_square (h : CleanFrame bitmap squares) (hs : s ∈ squares) {y : Nat}
    (hy : s.Crosses y) (centers : List Center) :
    tryRowCandidate bitmap (squareWindow s.m) (s.x + 7 * s.m) y centers
      = addCenter s.centerX s.centerY s.m centers := by
  have hm := s.two_le
  have hin := h.inside s hs
  obtain ⟨hlow, hhigh⟩ := mathRound_middle (m := s.m) (by omega)
  obtain ⟨hy, hy'⟩ := hy
  -- The centre is found where it is, and the three cross checks agree on it.
  have hx : mathRound s.centerX = s.x + mathRound (7 * s.m / 2) := mathRound_add s.x _
  have hyr : mathRound s.centerY = s.y + mathRound (7 * s.m / 2) := mathRound_add s.y _
  have hcenter : ((s.x + 7 * s.m : Nat) : ℚ) - (squareWindow s.m).r4 - (squareWindow s.m).r3
      - (squareWindow s.m).r2 / 2 = s.centerX := by
    rw [← squareWindow_total, candidate_center]
    unfold squareWindow FinderSquare.centerX
    push_cast
    ring
  have hsize : checkRatio (squareWindow s.m) = s.m := checkRatio_square (by omega)
  have hratio : checkRatio (squareWindow s.m) ≠ 0 := by
    rw [hsize]
    exact_mod_cast (show s.m ≠ 0 by omega)
  have hvertical : crossCheckVertical bitmap (mathRound s.centerX) y (3 * s.m) (7 * s.m)
      = some s.centerY :=
    (h.column_line hs (by omega) (by omega)).crossCheck_center (by omega) (by omega) (by omega)
      (by omega) (by omega)
  have hhorizontal : crossCheckHorizontal bitmap (mathRound s.centerX) (mathRound s.centerY)
      (3 * s.m) (7 * s.m) = some s.centerX :=
    (h.row_line hs (by omega) (by omega)).crossCheck_center (by omega) (by omega) (by omega)
      (by omega) (by omega)
  have hdiagonal : crossCheckDiagonal bitmap (mathRound s.centerX) (mathRound s.centerY)
      (3 * s.m) = true := by
    rw [hx, hyr]
    exact crossCheckDiagonal_center (h.diagonal_line hs _) (by omega) (by omega) (by omega)
      (by omega)
  rw [← squareWindow_total] at hvertical hhorizontal
  rw [tryRowCandidate_of_checks hratio hcenter hvertical hhorizontal hdiagonal, hsize]

section Window

variable {y a : Nat} {r : RunWindow} {centers : List Center}

/-- The middle run is an outer wall of the square. -/
theorem tryRowCandidate_wall (h : CleanFrame bitmap squares) (hs : s ∈ squares)
    (hw : WindowAt (rowCell bitmap y) a r) (hx : s.x ≤ a + r.r0 + r.r1)
    (hx' : a + r.r0 + r.r1 < s.x + 7 * s.m)
    (hy : s.y ≤ y ∧ y < s.y + s.m ∨ s.y + 6 * s.m ≤ y ∧ y < s.y + 7 * s.m) :
    tryRowCandidate bitmap r (a + r.total) y centers = centers := by
  have hpos := hw.third.pos
  obtain ⟨hstart, hlength⟩ := hw.third.unique (h.wall_run hs hy) le_rfl (by omega) hx hx'
  refine tryRowCandidate_of_vertical ?_
  have hcenter : ((a + r.total : Nat) : ℚ) - r.r4 - r.r3 - r.r2 / 2 = s.centerX := by
    rw [candidate_center, hstart, hlength]
    unfold FinderSquare.centerX
    push_cast
    rfl
  rw [hcenter]
  exact h.vertical_wall hs hy (by omega)

/-- The middle run is a wall beside the ring. -/
theorem checkRatio_ring (h : CleanFrame bitmap squares) (hs : s ∈ squares)
    (hw : WindowAt (rowCell bitmap y) a r) (hdark : s.Dark (a + r.r0 + r.r1 : Nat) y)
    (hy : s.y + s.m ≤ y ∧ y < s.y + 2 * s.m ∨ s.y + 5 * s.m ≤ y ∧ y < s.y + 6 * s.m) :
    checkRatio r = 0 := by
  have hm := s.two_le
  have hpos := hw.third.pos
  obtain ⟨hleft, hring, hright⟩ := h.ring_runs hs hy
  rw [FinderSquare.dark_iff] at hdark
  by_contra hratio
  obtain ⟨-, hbound, hbound', -⟩ := checkRatio_bounds hratio
  rcases Nat.lt_or_ge (a + r.r0 + r.r1) (s.x + s.m) with hlt | hge
  · obtain ⟨hstart, hlength⟩ := hw.third.unique hleft le_rfl (by omega) (by omega) hlt
    have hfourth := hw.fourth
    rw [hstart, hlength] at hfourth
    have := hfourth.unique_start hring
    omega
  · obtain ⟨hstart, hlength⟩ := hw.third.unique hright le_rfl (by omega) (by omega) (by omega)
    have := (hw.second.unique_stop hring (by omega)).2
    omega

/-- The middle run is in a row through the inner square. -/
theorem window_crosses (h : CleanFrame bitmap squares) (hs : s ∈ squares)
    (hw : WindowAt (rowCell bitmap y) a r) (hdark : s.Dark (a + r.r0 + r.r1 : Nat) y)
    (hy : s.Crosses y) (hratio : checkRatio r ≠ 0) : a = s.x ∧ r = squareWindow s.m := by
  have hm := s.two_le
  have hpos := hw.third.pos
  obtain ⟨hwall, hring, hinner, hring', hwall', -⟩ := h.square_window hs hy
  unfold squareWindow at hwall hring hinner hring' hwall'
  dsimp only at hwall hring hinner hring' hwall'
  obtain ⟨hlow, hhigh⟩ := hy
  rw [FinderSquare.dark_iff] at hdark
  obtain ⟨hbound, -, -, hbound'⟩ := checkRatio_bounds hratio
  -- Where the dark middle of the window can lie: on the left wall, in the inner square, or on the
  -- right wall.
  have hphase : a + r.r0 + r.r1 < s.x + s.m ∨
      s.x + s.m + s.m ≤ a + r.r0 + r.r1 ∧ a + r.r0 + r.r1 < s.x + 5 * s.m ∨
      s.x + 6 * s.m ≤ a + r.r0 + r.r1 := by omega
  rcases hphase with hleft | ⟨hlow', hhigh'⟩ | hright
  · -- The ring and the inner square follow.
    obtain ⟨hstart, hlength⟩ := hw.third.unique hwall le_rfl (by omega) (by omega) hleft
    have hfourth := hw.fourth
    have hfifth := hw.fifth
    rw [hstart, hlength] at hfourth hfifth
    have hr3 := hfourth.unique_start hring
    rw [hr3] at hfifth
    have hr4 := hfifth.unique_start hinner
    omega
  -- The window is the one that the square cuts out of its row.
  · obtain ⟨hstart, hlength⟩ := hw.third.unique hinner le_rfl (by omega) hlow' (by omega)
    obtain ⟨hstart1, hr1⟩ := hw.second.unique_stop hring hstart
    obtain ⟨hstart0, hr0⟩ := hw.first.unique_stop hwall hstart1
    have hfourth := hw.fourth
    have hfifth := hw.fifth
    rw [hstart, hlength] at hfourth hfifth
    have hr3 := hfourth.unique_start hring'
    rw [hr3] at hfifth
    have hr4 := hfifth.unique_start hwall'
    exact ⟨hstart0, RunWindow.ext hr0 hr1 hlength hr3 hr4⟩
  · -- The inner square and the ring come before.
    obtain ⟨hstart, hlength⟩ := hw.third.unique hwall' le_rfl (by omega) (by omega) (by omega)
    obtain ⟨hstart1, hr1⟩ := hw.second.unique_stop hring' (by omega)
    obtain ⟨hstart0, hr0⟩ := hw.first.unique_stop hinner (by omega)
    omega

/-- **No phantom.** A window that is not that of a square's middle hits nothing. -/
theorem tryRowCandidate_window (h : CleanFrame bitmap squares) (hy : y < height)
    (hw : WindowAt (rowCell bitmap y) a r) :
    tryRowCandidate bitmap r (a + r.total) y centers = centers ∨
      ∃ s ∈ squares, s.Crosses y ∧ a = s.x ∧ r = squareWindow s.m := by
  have hcenter := hw.center_dark
  rw [rowCell_eq_px hy, h.px_iff] at hcenter
  -- The middle run starts in a square, and what it is depends on the row of that square.
  obtain ⟨s, hs, hdark⟩ := hcenter
  have hbox := FinderSquare.dark_iff.mp hdark
  by_cases hratio : checkRatio r = 0
  · exact Or.inl (tryRowCandidate_of_ratio hratio)
  have hphase : (s.y ≤ y ∧ y < s.y + s.m ∨ s.y + 6 * s.m ≤ y ∧ y < s.y + 7 * s.m) ∨
      (s.y + s.m ≤ y ∧ y < s.y + 2 * s.m ∨ s.y + 5 * s.m ≤ y ∧ y < s.y + 6 * s.m) ∨
      s.y + 2 * s.m ≤ y ∧ y < s.y + 5 * s.m := by omega
  rcases hphase with hwall | hring | hcross
  · exact Or.inl (h.tryRowCandidate_wall hs hw (by omega) (by omega) hwall)
  · exact absurd (h.checkRatio_ring hs hw hdark hring) hratio
  · obtain ⟨hstart, hwindow⟩ := h.window_crosses hs hw hdark hcross hratio
    exact Or.inr ⟨s, hs, hcross, hstart, hwindow⟩

end Window

end CleanFrame

end BoxOffice
