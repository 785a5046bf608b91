import BoxOffice.Scanning.FinderLines

namespace BoxOffice

open Loops

/-!
# Scanning — the rows of the counter

Which windows the scan of a row tests.

* `WindowAt` — five runs of the row, the last of them dark;
* `Scanned` — what the scan carries, kept by `Scanned.step`;
* `scanRow_invariant` — candidates are tried exactly where a window ends, once and in order.
-/

section Rows

variable {width height : Nat} {bitmap : Vector Bool (width * height)} {x y a : Nat} {s : RowScan}
  {r : RunWindow} {f : Nat → Bool} {centers : List Center}

variable (bitmap) in
/-- `isDark` along a row, light from its end on. -/
def rowCell (y x : Nat) : Bool := decide (x < width) && bitmap.getD (y * width + x) false

/-- The cells of a row are its pixels. -/
theorem rowCell_eq_px (hy : y < height) : rowCell bitmap y x = px bitmap x y := by
  unfold rowCell px
  by_cases hx : x < width
  · rw [decide_eq_true hx, Bool.true_and, if_neg (by omega), Int.toNat_natCast, Int.toNat_natCast]
  · rw [decide_eq_false hx, Bool.false_and, if_pos (by omega)]

/-- The row ends with a light cell. -/
theorem rowCell_stop : rowCell bitmap y width = false := by
  unfold rowCell
  rw [decide_eq_false (lt_irrefl width), Bool.false_and]

/-! ### Windows -/

/-- Five runs from `a` on have the lengths of the window, and the last one is dark. -/
structure WindowAt (f : Nat → Bool) (a : Nat) (r : RunWindow) : Prop where
  first : IsRun f a r.r0
  second : IsRun f (a + r.r0) r.r1
  third : IsRun f (a + r.r0 + r.r1) r.r2
  fourth : IsRun f (a + r.r0 + r.r1 + r.r2) r.r3
  fifth : IsRun f (a + r.r0 + r.r1 + r.r2 + r.r3) r.r4
  dark : f (a + r.r0 + r.r1 + r.r2 + r.r3) = true

/-- The end of a window after its five runs. -/
theorem add_total : a + r.total = a + r.r0 + r.r1 + r.r2 + r.r3 + r.r4 := by
  unfold RunWindow.total
  omega

/-- A window ends where two runs meet. -/
theorem WindowAt.cut (h : WindowAt f a r) (hx : a + r.total = x) : Cut f x := by
  rw [← hx, add_total]
  exact h.fifth.right

/-- Its last pixel is dark. -/
theorem WindowAt.last (h : WindowAt f a r) (hx : a + r.total = x) : f (x - 1) = true := by
  rw [← hx, add_total, h.fifth.eq_last rfl]
  exact h.dark

/-- It has a pixel at least. -/
theorem WindowAt.total_pos (h : WindowAt f a r) : 0 < r.total := by
  have := h.first.pos
  unfold RunWindow.total
  omega

/-- One window at most ends at a cell. -/
theorem WindowAt.unique {a' : Nat} {r' : RunWindow} (h : WindowAt f a r) (h' : WindowAt f a' r')
    (hx : a + r.total = a' + r'.total) : a = a' ∧ r = r' := by
  rw [add_total, add_total] at hx
  obtain ⟨h4, hr4⟩ := h.fifth.unique_stop h'.fifth hx
  obtain ⟨h3, hr3⟩ := h.fourth.unique_stop h'.fourth h4
  obtain ⟨h2, hr2⟩ := h.third.unique_stop h'.third h3
  obtain ⟨h1, hr1⟩ := h.second.unique_stop h'.second h2
  obtain ⟨h0, hr0⟩ := h.first.unique_stop h'.first h1
  exact ⟨h0, RunWindow.ext hr0 hr1 hr2 hr3 hr4⟩

/-- The middle run is dark. -/
theorem WindowAt.center_dark (h : WindowAt f a r) : f (a + r.r0 + r.r1) = true := by
  have hlight := h.fourth.ne_next
  have hdark := h.third.ne_next
  rw [h.dark] at hlight
  rw [Bool.eq_false_iff.mpr hlight] at hdark
  exact Bool.eq_true_of_not_eq_false hdark

/-! ### The state -/

/-- The window after these runs, the latest first. -/
def pushRuns : List Nat → RunWindow
  | [] => ⟨0, 0, 0, 0, 0⟩
  | len :: before => shiftRun (pushRuns before) len

/-- The scan has read `x` cells of the row. -/
structure Scanned (f : Nat → Bool) (x : Nat) (s : RowScan) : Prop where
  pos : 0 < x
  colour : s.currentIsDark = f (x - 1)
  runs : ∃ before, EndsInRuns f x (s.runLen :: before) ∧ s.runs = pushRuns before ∧
    s.runCount = min 5 before.length

/-- A pixel of the same colour makes the run longer. -/
theorem scanPixel_same (hx : x < width) (h : rowCell bitmap y x = s.currentIsDark) :
    scanPixel bitmap y s x = { s with runLen := s.runLen + 1 } := by
  unfold scanPixel
  exact if_pos ⟨hx, h⟩

/-- A run ends, and may be the last of a window. -/
theorem scanPixel_new (h : ¬(x < width ∧ rowCell bitmap y x = s.currentIsDark))
    (hcount : s.runCount ≤ 5) :
    scanPixel bitmap y s x =
      { runs := shiftRun s.runs s.runLen
        runCount := min 5 (s.runCount + 1)
        currentIsDark := rowCell bitmap y x
        runLen := 1
        centers := if min 5 (s.runCount + 1) = 5 ∧ s.currentIsDark then
            tryRowCandidate bitmap (shiftRun s.runs s.runLen) x y s.centers
          else s.centers } := by
  have hnext : (if s.runCount < 5 then s.runCount + 1 else s.runCount) = min 5 (s.runCount + 1) := by
    split_ifs <;> omega
  rw [← hnext]
  unfold scanPixel
  exact if_neg h

/-- The scan keeps five runs at most. -/
theorem Scanned.runCount_le (h : Scanned f x s) : s.runCount ≤ 5 := by
  obtain ⟨before, -, -, hcount⟩ := h.runs
  omega

/-- One more cell is read. -/
theorem Scanned.step (h : Scanned (rowCell bitmap y) x s) (hx : x < width) :
    Scanned (rowCell bitmap y) (x + 1) (scanPixel bitmap y s x) := by
  obtain ⟨before, hruns, hwindow, hcount⟩ := h.runs
  by_cases hsame : rowCell bitmap y x = s.currentIsDark
  · have hcut : ¬Cut (rowCell bitmap y) x := by
      rintro (hzero | hne)
      · exact h.pos.ne' hzero
      · exact hne (h.colour.symm.trans hsame.symm)
    rw [scanPixel_same hx hsame]
    exact ⟨Nat.succ_pos x, hsame.symm, before, hruns.same hcut, hwindow, hcount⟩
  · have hcut : Cut (rowCell bitmap y) x :=
      Or.inr fun heq => hsame (heq.symm.trans h.colour.symm)
    rw [scanPixel_new (fun hand => hsame hand.2) h.runCount_le]
    refine ⟨Nat.succ_pos x, rfl, s.runLen :: before, hruns.new hcut, ?_, ?_⟩
    · exact congrArg (shiftRun · s.runLen) hwindow
    · show min 5 (s.runCount + 1) = min 5 (before.length + 1)
      omega

/-- The first cell has the colour the scan starts with. -/
theorem scanned_one (hwidth : 0 < width) :
    Scanned (rowCell bitmap y) 1 (scanPixel bitmap y (rowStart bitmap y centers) 0) ∧
      (scanPixel bitmap y (rowStart bitmap y centers) 0).centers = centers := by
  have hfirst : rowCell bitmap y 0 = (rowStart bitmap y centers).currentIsDark := by
    unfold rowCell rowStart
    rw [decide_eq_true hwidth, Bool.true_and, Nat.add_zero]
  rw [scanPixel_same hwidth hfirst]
  exact ⟨⟨Nat.one_pos, hfirst.symm, [], EndsInRuns.nil.new (Or.inl rfl), rfl, rfl⟩, rfl⟩

/-! ### Candidates -/

/-- The runs before a window's end are those of the window. -/
theorem WindowAt.runs {L : List Nat} (h : WindowAt f a r) (hL : EndsInRuns f (a + r.total) L) :
    ∃ before, L = r.r4 :: r.r3 :: r.r2 :: r.r1 :: r.r0 :: before := by
  rw [add_total] at hL
  obtain ⟨L4, rfl, h4⟩ := hL.eq_cons h.fifth rfl
  obtain ⟨L3, rfl, h3⟩ := h4.eq_cons h.fourth rfl
  obtain ⟨L2, rfl, h2⟩ := h3.eq_cons h.third rfl
  obtain ⟨L1, rfl, h1⟩ := h2.eq_cons h.second rfl
  obtain ⟨L0, rfl, -⟩ := h1.eq_cons h.first rfl
  exact ⟨L0, rfl⟩

/-- Five runs that end in dark are a window. -/
theorem windowAt_of_runs {r0 r1 r2 r3 r4 : Nat} {before : List Nat} (hcut : Cut f x)
    (h : EndsInRuns f x (r4 :: r3 :: r2 :: r1 :: r0 :: before)) (hdark : f (x - 1) = true) :
    ∃ a, WindowAt f a ⟨r0, r1, r2, r3, r4⟩ ∧ a + (⟨r0, r1, r2, r3, r4⟩ : RunWindow).total = x := by
  obtain ⟨a4, rfl, hcut4, hrun4, h4⟩ := h.isRun hcut
  obtain ⟨a3, rfl, hcut3, hrun3, h3⟩ := h4.isRun hcut4
  obtain ⟨a2, rfl, hcut2, hrun2, h2⟩ := h3.isRun hcut3
  obtain ⟨a1, rfl, hcut1, hrun1, h1⟩ := h2.isRun hcut2
  obtain ⟨a0, rfl, -, hrun0, -⟩ := h1.isRun hcut1
  rw [hrun4.eq_last rfl] at hdark
  exact ⟨a0, ⟨hrun0, hrun1, hrun2, hrun3, hrun4, hdark⟩, add_total⟩

/-- At the end of a window the candidate is tried. -/
theorem Scanned.tried (h : Scanned (rowCell bitmap y) x s)
    (hw : WindowAt (rowCell bitmap y) a r) (hx : a + r.total = x) :
    (scanPixel bitmap y s x).centers = tryRowCandidate bitmap r x y s.centers := by
  obtain ⟨before, hruns, hwindow, hcount⟩ := h.runs
  have hdark : s.currentIsDark = true := h.colour.trans (hw.last hx)
  have hends : ¬(x < width ∧ rowCell bitmap y x = s.currentIsDark) := by
    rintro ⟨-, hsame⟩
    exact ne_of_cut (hw.cut hx) h.pos (h.colour.symm.trans hsame.symm)
  obtain ⟨rest, hlist⟩ := hw.runs (hx ▸ hruns)
  injection hlist with hlen hbefore
  subst hbefore
  have hfull : min 5 (s.runCount + 1) = 5 := by
    rw [hcount]
    simp only [List.length_cons]
    omega
  rw [scanPixel_new hends h.runCount_le]
  dsimp only
  rw [if_pos ⟨hfull, hdark⟩, hwindow, hlen]
  rfl

/-- Elsewhere nothing is. -/
theorem Scanned.not_tried (h : Scanned (rowCell bitmap y) x s) (hx : x ≤ width)
    (hnone : ∀ a r, WindowAt (rowCell bitmap y) a r → a + r.total ≠ x) :
    (scanPixel bitmap y s x).centers = s.centers := by
  obtain ⟨before, hruns, -, hcount⟩ := h.runs
  by_cases hends : x < width ∧ rowCell bitmap y x = s.currentIsDark
  · rw [scanPixel_same hends.1 hends.2]
  · rw [scanPixel_new hends h.runCount_le]
    refine if_neg ?_
    rintro ⟨hfull, hdark⟩
    have hlast : rowCell bitmap y (x - 1) = true := h.colour.symm.trans hdark
    have hcut : Cut (rowCell bitmap y) x := by
      refine Or.inr fun heq => ?_
      rw [hlast] at heq
      rcases Nat.lt_or_eq_of_le hx with hlt | rfl
      · exact hends ⟨hlt, heq.symm.trans hdark.symm⟩
      · rw [rowCell_stop] at heq
        exact Bool.noConfusion heq
    have hlength : 4 ≤ before.length := by omega
    match before, hlength with
    | r3 :: r2 :: r1 :: r0 :: rest, _ =>
      obtain ⟨a, hw, htotal⟩ := windowAt_of_runs hcut hruns hlast
      exact hnone a _ hw htotal

/-- **A row.** Candidates are tried exactly where windows end, from left to right. -/
theorem scanRow_invariant {P : Nat → List Center → Prop} (hwidth : 0 < width) (hstart : P 0 centers)
    (hnone : ∀ x ≤ width, ∀ cs, P x cs →
      (∀ a r, WindowAt (rowCell bitmap y) a r → a + r.total ≠ x) → P (x + 1) cs)
    (htry : ∀ x ≤ width, ∀ cs a r, P x cs → WindowAt (rowCell bitmap y) a r →
      a + r.total = x → P (x + 1) (tryRowCandidate bitmap r x y cs)) :
    P (width + 1) (scanRow bitmap centers y) := by
  have hpixel : ∀ x ≤ width, ∀ s, Scanned (rowCell bitmap y) x s → P x s.centers →
      P (x + 1) (scanPixel bitmap y s x).centers := by
    intro x hx s hs hP
    by_cases hw : ∃ a r, WindowAt (rowCell bitmap y) a r ∧ a + r.total = x
    · obtain ⟨a, r, hw, htotal⟩ := hw
      rw [hs.tried hw htotal]
      exact htry x hx _ a r hP hw htotal
    · have hno : ∀ a r, WindowAt (rowCell bitmap y) a r → a + r.total ≠ x :=
        fun a r hwin htotal => hw ⟨a, r, hwin, htotal⟩
      rw [hs.not_tried hx hno]
      exact hnone x hx _ hP hno
  -- The state after the first `x` turns, one at least.
  have hscan : ∀ x ≤ width, 1 ≤ x →
      Scanned (rowCell bitmap y) x
          ((List.range x).foldl (scanPixel bitmap y) (rowStart bitmap y centers)) ∧
        P x ((List.range x).foldl (scanPixel bitmap y) (rowStart bitmap y centers)).centers := by
    intro x hx hone
    induction x, hone using Nat.le_induction with
    | base =>
      obtain ⟨hfirst, hcenters⟩ := @scanned_one width height bitmap y centers hwidth
      refine ⟨hfirst, ?_⟩
      show P 1 (scanPixel bitmap y (rowStart bitmap y centers) 0).centers
      rw [hcenters]
      refine hnone 0 (Nat.zero_le _) _ hstart fun a r hw htotal => ?_
      have := hw.total_pos
      omega
    | succ x hone ih =>
      obtain ⟨hs, hP⟩ := ih (by omega)
      rw [List.range_succ, List.foldl_append]
      exact ⟨hs.step (by omega), hpixel x (by omega) _ hs hP⟩
  obtain ⟨hs, hP⟩ := hscan width le_rfl hwidth
  unfold scanRow
  rw [List.range_succ, List.foldl_append]
  exact hpixel width le_rfl _ hs hP

end Rows

end BoxOffice
