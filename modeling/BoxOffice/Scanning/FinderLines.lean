import BoxOffice.Loops.Runs
import BoxOffice.Scanning.FinderPatterns
import Mathlib.Tactic.Linarith
import Mathlib.Tactic.NormNum
import Mathlib.Tactic.Ring

namespace BoxOffice

open Loops

/-!
# Scanning — finder patterns along a line

What the checks of the counter find on a line of cells.

* `checkRatio_bounds` — what a window that passes cannot look like;
* `FinderLine` — a line through the centre of a finder square; `FinderLine.crossCheck_center`
  finds its middle, `FinderLine.crossCheck_first` and `FinderLine.crossCheck_last` reject a start
  in an outer wall;
* `crossCheckDiagonal_center` — the diagonal check passes.
-/

/-! ### Ratios -/

section Ratios

variable {r : RunWindow}

/-- The bounds on the runs of a window that passes. -/
theorem checkRatio_bounds (h : checkRatio r ≠ 0) :
    r.r0 < 3 * r.r1 ∧ r.r1 < r.r2 ∧ r.r3 < r.r2 ∧ r.r4 < 3 * r.r3 := by
  unfold checkRatio varianceDiv at h
  dsimp only at h
  split_ifs at h with _ h0 h1 h2 h3 h4
  all_goals first | exact absurd rfl h | skip
  simp only [ge_iff_le, not_le, abs_lt] at h0 h1 h2 h3 h4
  refine ⟨?_, ?_, ?_, ?_⟩
  · have : (r.r0 : ℚ) < 3 * r.r1 := by linarith
    exact_mod_cast this
  · have : (r.r1 : ℚ) < r.r2 := by linarith
    exact_mod_cast this
  · have : (r.r3 : ℚ) < r.r2 := by linarith
    exact_mod_cast this
  · have : (r.r4 : ℚ) < 3 * r.r3 := by linarith
    exact_mod_cast this

/-- The runs of a finder square with modules of `m` pixels. -/
def squareWindow (m : Nat) : RunWindow := ⟨m, m, 3 * m, m, m⟩

/-- The runs of a square make seven modules. -/
theorem squareWindow_total (m : Nat) : (squareWindow m).total = 7 * m := by
  unfold RunWindow.total squareWindow
  dsimp only
  omega

/-- The runs of a square have the ratios of a finder pattern. -/
theorem checkRatio_square {m : Nat} (hm : 0 < m) : checkRatio (squareWindow m) = m := by
  have hpos : (1 : ℚ) ≤ m := by exact_mod_cast hm
  have hsize : (((7 * m : Nat) : ℚ)) / 7 = m := by
    push_cast
    exact mul_div_cancel_left₀ _ (by norm_num)
  have hbig : ¬(((7 * m : Nat) : ℚ) < 7) := by
    push_cast
    linarith
  have hedge : ¬|(m : ℚ) - m| ≥ m / 2 := by
    rw [sub_self, abs_zero, ge_iff_le, not_le]
    linarith
  have hcenter : ¬|3 * (m : ℚ) - ((3 * m : Nat) : ℚ)| ≥ 3 * (m / 2) := by
    push_cast
    rw [sub_self, abs_zero, ge_iff_le, not_le]
    linarith
  unfold checkRatio varianceDiv
  dsimp only
  rw [squareWindow_total, if_neg hbig, hsize]
  unfold squareWindow
  dsimp only
  rw [if_neg hedge, if_neg hedge, if_neg hcenter, if_neg hedge, if_neg hedge]

end Ratios

/-! ### Arms -/

section Arms

variable {cell : Nat → Bool} {colour : Bool} {room i n maxCount : Nat} {arm : Arm}

/-- Counting stops where the run ends. -/
theorem countWhile_eq (hn : n ≤ room) (hrun : ∀ k, i ≤ k → k < i + n → cell k = colour)
    (hend : n = room ∨ cell (i + n) ≠ colour) : countWhile cell colour room i = n := by
  induction room generalizing i n with
  | zero => exact (Nat.le_zero.mp hn).symm
  | succ room ih =>
    cases n with
    | zero =>
      have hother : cell i ≠ colour := hend.resolve_left (by omega)
      rw [countWhile, if_neg hother]
    | succ n =>
      have hrest : countWhile cell colour room (i + 1) = n := by
        refine ih (by omega) (fun k hk hk' => hrun k (by omega) (by omega)) ?_
        rcases hend with h | h
        · exact Or.inl (by omega)
        · exact Or.inr (by rwa [show i + 1 + n = i + (n + 1) by omega])
      rw [countWhile, if_pos (hrun i le_rfl (by omega)), hrest]

/-- From the centre on there are `u` dark cells, `l` light and `d` dark ones, and light after
    them. -/
structure ReadsArm (cell : Nat → Bool) (u l d : Nat) : Prop where
  center : ∀ k, 0 ≤ k → k < 0 + u → cell k = true
  light : ∀ k, u ≤ k → k < u + l → cell k = false
  dark : ∀ k, u + l ≤ k → k < u + l + d → cell k = true
  stop : cell (u + l + d) = false
  light_pos : 0 < l
  dark_pos : 0 < d

variable {u l d : Nat}

/-- After the center comes a light pixel. -/
theorem ReadsArm.center_stop (h : ReadsArm cell u l d) : cell (0 + u) ≠ true := by
  rw [Nat.zero_add, h.light u le_rfl (by have := h.light_pos; omega)]
  exact Bool.false_ne_true

/-- After the light run comes a dark pixel. -/
theorem ReadsArm.light_stop (h : ReadsArm cell u l d) : cell (u + l) ≠ false := by
  rw [h.dark (u + l) le_rfl (by have := h.dark_pos; omega)]
  exact fun h => Bool.noConfusion h

/-- After the dark run comes a light pixel again. -/
theorem ReadsArm.dark_stop (h : ReadsArm cell u l d) : cell (u + l + d) ≠ true := by
  rw [h.stop]
  exact Bool.false_ne_true

/-- An arm that can be read within its limits is read. -/
theorem axisArm_eq (h : ReadsArm cell u l d) (hroom : u + l + d ≤ room) (hlight : l ≤ maxCount)
    (hdark : d ≤ maxCount) : axisArm cell room maxCount = some ⟨u, l, d⟩ := by
  have hpos := h.light_pos
  have hpos' := h.dark_pos
  unfold axisArm
  dsimp only
  rw [countWhile_eq (by omega) h.center (Or.inr h.center_stop), if_neg (by omega),
    countWhile_eq (by omega) h.light (Or.inr h.light_stop), if_neg (by omega),
    countWhile_eq (by omega) h.dark (Or.inr h.dark_stop), if_neg (by omega)]

/-- So is one of a diagonal. -/
theorem diagonalArm_eq (h : ReadsArm cell u l d) (hroom : u ≤ room) (hlight : l ≤ maxCount)
    (hdark : d ≤ maxCount) : diagonalArm cell room maxCount = some ⟨u, l, d⟩ := by
  have hpos := h.light_pos
  have hpos' := h.dark_pos
  unfold diagonalArm
  dsimp only
  rw [countWhile_eq hroom h.center (Or.inr h.center_stop),
    countWhile_eq (by omega) h.light (Or.inr h.light_stop), if_neg (by omega),
    countWhile_eq (by omega) h.dark (Or.inr h.dark_stop), if_neg (by omega)]

end Arms

/-! ### A line through a square -/

section Line

variable {cell : Int → Bool} {a c t : Int} {m size maxCount originalTotal : Nat}

/-- From `a` on the cells read 1:1:3:1:1 in modules of `m`, between light ones. -/
def FinderLine (cell : Int → Bool) (a : Int) (m : Nat) : Prop :=
  ∀ t, a - 1 ≤ t → t ≤ a + 7 * m →
    (cell t = true ↔ a ≤ t ∧ t < a + m ∨ a + 2 * m ≤ t ∧ t < a + 5 * m ∨
      a + 6 * m ≤ t ∧ t < a + 7 * m)

/-- The dark pixels of a line. -/
theorem FinderLine.dark (h : FinderLine cell a m)
    (ht : a ≤ t ∧ t < a + m ∨ a + 2 * m ≤ t ∧ t < a + 5 * m ∨ a + 6 * m ≤ t ∧ t < a + 7 * m) :
    cell t = true :=
  (h t (by omega) (by omega)).mpr ht

/-- The light pixels of a line. -/
theorem FinderLine.light (h : FinderLine cell a m)
    (ht : t = a - 1 ∨ a + m ≤ t ∧ t < a + 2 * m ∨ a + 5 * m ≤ t ∧ t < a + 6 * m ∨
      t = a + 7 * m) : cell t = false := by
  refine Bool.eq_false_iff.mpr fun hdark => ?_
  have := (h t (by omega) (by omega)).mp hdark
  omega

/-- Backwards from the centre block. -/
theorem FinderLine.up_center (h : FinderLine cell a m) (hm : 0 < m) (hlow : a + 2 * m ≤ c)
    (hhigh : c < a + 5 * m) :
    ReadsArm (fun i => cell (c - i)) (c + 1 - (a + 2 * m)).toNat m m where
  center k _ hk := h.dark (by omega)
  light k hk hk' := h.light (by omega)
  dark k hk hk' := h.dark (by omega)
  stop := h.light (by omega)
  light_pos := hm
  dark_pos := hm

/-- Backwards from the last block. -/
theorem FinderLine.up_last (h : FinderLine cell a m) (hm : 0 < m) (hlow : a + 6 * m ≤ c)
    (hhigh : c < a + 7 * m) :
    ReadsArm (fun i => cell (c - i)) (c + 1 - (a + 6 * m)).toNat m (3 * m) where
  center k _ hk := h.dark (by omega)
  light k hk hk' := h.light (by omega)
  dark k hk hk' := h.dark (by omega)
  stop := h.light (by omega)
  light_pos := hm
  dark_pos := by omega

/-- Onwards from the centre block. -/
theorem FinderLine.down_center (h : FinderLine cell a m) (hm : 0 < m) (hlow : a + 2 * m ≤ c)
    (hhigh : c < a + 5 * m) :
    ReadsArm (fun i => cell (c + 1 + i)) (a + 5 * m - (c + 1)).toNat m m where
  center k _ hk := h.dark (by omega)
  light k hk hk' := h.light (by omega)
  dark k hk hk' := h.dark (by omega)
  stop := h.light (by omega)
  light_pos := hm
  dark_pos := hm

/-- Onwards from the first block. -/
theorem FinderLine.down_first (h : FinderLine cell a m) (hm : 0 < m) (hlow : a ≤ c)
    (hhigh : c < a + m) :
    ReadsArm (fun i => cell (c + 1 + i)) (a + m - (c + 1)).toNat m (3 * m) where
  center k _ hk := h.dark (by omega)
  light k hk hk' := h.light (by omega)
  dark k hk hk' := h.dark (by omega)
  stop := h.light (by omega)
  light_pos := hm
  dark_pos := by omega

/-- A cross-check that returns has read both arms, and their window passes. -/
theorem crossCheck_arms {q : ℚ} (h : crossCheck cell size c maxCount originalTotal = some q) :
    ∃ up down, axisArm (fun i => cell (c - i)) (c + 1).toNat maxCount = some up ∧
      axisArm (fun i => cell (c + 1 + i)) (size - (c + 1)).toNat maxCount = some down ∧
      checkRatio (armWindow up down) ≠ 0 := by
  unfold crossCheck at h
  cases hup : axisArm (fun i => cell (c - i)) (c + 1).toNat maxCount with
  | none =>
    rw [hup] at h
    cases h
  | some up =>
    cases hdown : axisArm (fun i => cell (c + 1 + i)) (size - (c + 1)).toNat maxCount with
    | none =>
      rw [hup, hdown] at h
      cases h
    | some down =>
      refine ⟨up, down, rfl, rfl, fun hzero => ?_⟩
      rw [hup, hdown] at h
      simp only [Option.bind_eq_bind, Option.bind_some, hzero, if_true, ite_self] at h
      cases h

/-- From an outer wall on, the next arm is out of ratio. -/
theorem FinderLine.crossCheck_first (h : FinderLine cell a m) (hm : 0 < m) (hlow : a ≤ c)
    (hhigh : c < a + m) (hsize : a + 7 * m ≤ size) (hmax : 3 * m ≤ maxCount) :
    crossCheck cell size c maxCount originalTotal = none := by
  refine Option.eq_none_iff_forall_ne_some.mpr fun q hq => ?_
  obtain ⟨up, down, -, hdown, hratio⟩ := crossCheck_arms hq
  rw [axisArm_eq (h.down_first hm hlow hhigh) (by omega) (by omega) hmax] at hdown
  obtain rfl := Option.some.inj hdown
  have hbounds := (checkRatio_bounds hratio).2.2.2
  unfold armWindow at hbounds
  dsimp only at hbounds
  omega

/-- A check that starts at the last module of the line fails. -/
theorem FinderLine.crossCheck_last (h : FinderLine cell a m) (hm : 0 < m) (hlow : a + 6 * m ≤ c)
    (hhigh : c < a + 7 * m) (hstart : 0 ≤ a) (hmax : 3 * m ≤ maxCount) :
    crossCheck cell size c maxCount originalTotal = none := by
  refine Option.eq_none_iff_forall_ne_some.mpr fun q hq => ?_
  obtain ⟨up, down, hup, -, hratio⟩ := crossCheck_arms hq
  rw [axisArm_eq (h.up_last hm hlow hhigh) (by omega) (by omega) hmax] at hup
  obtain rfl := Option.some.inj hup
  have hbounds := (checkRatio_bounds hratio).1
  unfold armWindow at hbounds
  dsimp only at hbounds
  omega

/-- The two arms from the centre block. -/
theorem armWindow_center (hlow : a + 2 * m ≤ c) (hhigh : c < a + 5 * m) :
    armWindow ⟨(c + 1 - (a + 2 * m)).toNat, m, m⟩ ⟨(a + 5 * m - (c + 1)).toNat, m, m⟩
      = squareWindow m := by
  unfold armWindow squareWindow
  dsimp only
  rw [RunWindow.mk.injEq]
  exact ⟨rfl, rfl, by omega, rfl, rfl⟩

/-- From the centre block on, the middle is found. -/
theorem FinderLine.crossCheck_center (h : FinderLine cell a m) (hm : 0 < m)
    (hlow : a + 2 * m ≤ c) (hhigh : c < a + 5 * m) (hstart : 0 ≤ a) (hsize : a + 7 * m ≤ size) :
    crossCheck cell size c (3 * m) (7 * m) = some ((a : ℚ) + 7 * m / 2) := by
  have hratio : checkRatio (squareWindow m) ≠ 0 := by
    rw [checkRatio_square hm]
    exact_mod_cast hm.ne'
  have htotal : ¬5 * |((squareWindow m).total : Int) - (7 * m : Nat)| ≥ 2 * (7 * m : Nat) := by
    rw [squareWindow_total, sub_self, abs_zero]
    omega
  have hstop : c + 1 + (((a + 5 * m - (c + 1)).toNat : Int) + m + m) = a + 7 * m := by omega
  unfold crossCheck
  rw [axisArm_eq (h.up_center hm hlow hhigh) (by omega) (by omega) (by omega),
    axisArm_eq (h.down_center hm hlow hhigh) (by omega) (by omega) (by omega)]
  simp only [Option.bind_eq_bind, Option.bind_some]
  rw [armWindow_center hlow hhigh, if_neg htotal, if_neg hratio, hstop]
  refine congrArg some ?_
  unfold squareWindow
  push_cast
  ring

end Line

/-! ### Rounding -/

/-- Rounding commutes with whole numbers. -/
theorem mathRound_add (a : Int) (q : ℚ) : mathRound (a + q) = a + mathRound q := by
  unfold mathRound
  rw [add_assoc, Int.floor_intCast_add]

/-- The middle of a square is in its centre block. -/
theorem mathRound_middle {m : Nat} (hm : 0 < m) :
    2 * m ≤ mathRound (7 * m / 2) ∧ mathRound (7 * m / 2) < 5 * m := by
  have hpos : (1 : ℚ) ≤ m := by exact_mod_cast hm
  unfold mathRound
  constructor
  · rw [Int.le_floor]
    push_cast
    linarith
  · rw [Int.floor_lt]
    push_cast
    linarith

/-! ### The diagonal -/

section Diagonal

variable {width height : Nat} {bitmap : Vector Bool (width * height)} {x y a : Int}
  {m room maxCount : Nat}

/-- Outside the frame every pixel is light. -/
theorem px_eq_false (h : x < 0 ∨ y < 0 ∨ x ≥ width ∨ y ≥ height) : px bitmap x y = false := by
  unfold px
  rw [if_pos h]

/-- From the centre block on, the diagonal check passes. -/
theorem crossCheckDiagonal_center (h : FinderLine (fun t => px bitmap (x + t) (y + t)) a m)
    (hm : 0 < m) (hlow : a + 2 * m ≤ 0) (hhigh : 0 < a + 5 * m) (hwidth : 7 * m ≤ width) :
    crossCheckDiagonal bitmap x y (3 * m) = true := by
  have hup := h.up_center hm hlow hhigh
  have hdown := h.down_center hm hlow hhigh
  simp only [zero_sub, zero_add, ← sub_eq_add_neg, ← add_assoc] at hup hdown
  have hratio : checkRatio (squareWindow m) > 0 := by
    rw [checkRatio_square hm]
    exact_mod_cast hm
  have hwindow := @armWindow_center a 0 m hlow hhigh
  simp only [zero_add] at hwindow
  unfold crossCheckDiagonal
  dsimp only
  rw [diagonalArm_eq hup (by omega) (by omega) (by omega),
    diagonalArm_eq hdown (by omega) (by omega) (by omega)]
  dsimp only
  rw [hwindow, decide_eq_true hratio, Bool.and_true, decide_eq_true_eq]
  omega

end Diagonal

end BoxOffice
