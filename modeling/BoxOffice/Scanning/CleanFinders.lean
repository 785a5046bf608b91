import BoxOffice.Scanning.CleanFrames
import Mathlib.Data.List.Nodup
import Mathlib.Data.List.Perm.Subperm
import Mathlib.Tactic.FieldSimp

namespace BoxOffice

/-!
# Scanning — clean finder squares are counted

On a clean frame the counter finds the squares.

* `addCenter_hit`, `addCenter_new` — a hit goes to its own square;
* `Tally` — the centres are those of the squares hit so far, with their hits; `scanRow_tally` and
  `rows_tally` keep it;
* `two_le_hits` — every square is hit twice at least;
* `finders_exact` — one centre for each square, and no other;
* `cleanFrame_drawSquares` — any squares that do not touch have such a frame.
-/

namespace FinderSquare

variable {s t : FinderSquare} {n : Nat}

/-- The centre of a square, hit so often. -/
def center (s : FinderSquare) (hits : Nat) : Center := ⟨s.centerX, s.centerY, s.m, hits⟩

/-! ### Near and apart -/

/-- The module of a square is two pixels at least. -/
theorem two_le_cast (s : FinderSquare) : (2 : ℚ) ≤ s.m := by exact_mod_cast s.two_le

/-- The center of a square is near itself. -/
theorem near_self : (s.center n).Near s.centerX s.centerY s.m := by
  have hm := s.two_le_cast
  unfold Center.Near center moduleRatioTol
  dsimp only
  rw [sub_self, sub_self, mul_zero, add_zero, div_self (by linarith), if_neg (lt_irrefl 1)]
  exact ⟨mul_self_nonneg _, by norm_num⟩

/-- Squares apart are different. -/
theorem Apart.ne (h : s.Apart t) : s ≠ t := by
  rintro rfl
  unfold Apart at h
  omega

/-- The centres of squares that do not touch are far from each other on one axis. -/
theorem Apart.far (h : s.Apart t) :
    7 / 2 * (s.m + t.m : ℚ) < |s.centerX - t.centerX| ∨
      7 / 2 * (s.m + t.m : ℚ) < |s.centerY - t.centerY| := by
  unfold centerX centerY
  simp only [lt_abs]
  rcases h with h | h | h | h
  · have : (s.x : ℚ) + 7 * s.m < t.x := by exact_mod_cast h
    exact Or.inl (Or.inr (by linarith))
  · have : (t.x : ℚ) + 7 * t.m < s.x := by exact_mod_cast h
    exact Or.inl (Or.inl (by linarith))
  · have : (s.y : ℚ) + 7 * s.m < t.y := by exact_mod_cast h
    exact Or.inr (Or.inr (by linarith))
  · have : (t.y : ℚ) + 7 * t.m < s.y := by exact_mod_cast h
    exact Or.inr (Or.inl (by linarith))

/-- The center of a square is not near that of another. -/
theorem not_near_of_apart (h : s.Apart t) : ¬(s.center n).Near t.centerX t.centerY t.m := by
  have hs := s.two_le_cast
  have ht := t.two_le_cast
  -- The radius of a cluster is less than half the widths together.
  have hradius : max (clusterModules * max (t.m : ℚ) s.m) clusterMinPx ≤ 7 / 2 * (s.m + t.m) := by
    unfold clusterModules clusterMinPx
    refine max_le ?_ (by linarith)
    rcases max_cases (t.m : ℚ) s.m with ⟨hmax, -⟩ | ⟨hmax, -⟩ <;> rw [hmax] <;> linarith
  have hpos : 0 ≤ max (clusterModules * max (t.m : ℚ) s.m) clusterMinPx :=
    le_max_of_le_right (by unfold clusterMinPx; norm_num)
  rintro ⟨hnear, -⟩
  unfold center at hnear
  dsimp only at hnear
  have hx := mul_self_nonneg (s.centerX - t.centerX)
  have hy := mul_self_nonneg (s.centerY - t.centerY)
  rcases h.far with hfar | hfar
  · have hlt := mul_self_lt_mul_self hpos (hradius.trans_lt hfar)
    rw [abs_mul_abs_self] at hlt
    linarith
  · have hlt := mul_self_lt_mul_self hpos (hradius.trans_lt hfar)
    rw [abs_mul_abs_self] at hlt
    linarith

/-- Merging a center with itself counts one more hit. -/
theorem merge_self : (s.center n).merge s.centerX s.centerY s.m = s.center (n + 1) := by
  have hn : (n : ℚ) + 1 ≠ 0 := by positivity
  have hmean (q : ℚ) : (q * n + q) / (n + 1) = q := by field_simp
  unfold Center.merge center
  dsimp only
  rw [hmean, hmean, hmean]

end FinderSquare

/-! ### Merging -/

section Merging

variable {L : List FinderSquare} {s : FinderSquare} {hits hits' : FinderSquare → Nat}

/-- A square that is not known yet gets a centre of its own. -/
theorem addCenter_new (hapart : ∀ t ∈ L, t.Apart s) :
    addCenter s.centerX s.centerY s.m (L.map fun t => t.center (hits t))
      = (L.map fun t => t.center (hits t)) ++ [s.center 1] := by
  induction L with
  | nil => rfl
  | cons t rest ih =>
    rw [List.forall_mem_cons] at hapart
    rw [List.map_cons, addCenter, if_neg (FinderSquare.not_near_of_apart hapart.1), ih hapart.2,
      List.cons_append]

/-- A square that is known gets the hit. -/
theorem addCenter_hit (hnodup : L.Nodup) (hs : s ∈ L) (hapart : ∀ t ∈ L, t ≠ s → t.Apart s)
    (hhit : hits' s = hits s + 1) (hsame : ∀ t ∈ L, t ≠ s → hits' t = hits t) :
    addCenter s.centerX s.centerY s.m (L.map fun t => t.center (hits t))
      = L.map fun t => t.center (hits' t) := by
  induction L with
  | nil => cases hs
  | cons t rest ih =>
    rw [List.nodup_cons] at hnodup
    rw [List.forall_mem_cons] at hapart hsame
    rw [List.map_cons, List.map_cons, addCenter]
    by_cases heq : t = s
    · subst heq
      rw [if_pos FinderSquare.near_self, FinderSquare.merge_self, hhit]
      refine congrArg _ (List.map_congr_left fun u hu => ?_)
      rw [hsame.2 u hu (ne_of_mem_of_not_mem hu hnodup.1)]
    · have hrest : s ∈ rest := (List.mem_cons.mp hs).resolve_left (Ne.symm heq)
      rw [if_neg (FinderSquare.not_near_of_apart (hapart.1 heq)), hsame.1 heq,
        ih hnodup.2 hrest hapart.2 hsame.2]

end Merging

/-! ### The tally -/

section Tally

variable {width height : Nat} {bitmap : Vector Bool (width * height)}
  {squares : List FinderSquare} {hits hits' : FinderSquare → Nat} {centers : List Center}
  {s : FinderSquare} {y : Nat}

/-- The centres are those of the squares that were hit, with their hits. -/
def Tally (squares : List FinderSquare) (hits : FinderSquare → Nat) (centers : List Center) :
    Prop :=
  ∃ L : List FinderSquare, L.Nodup ∧ (∀ s, s ∈ L ↔ s ∈ squares ∧ 0 < hits s) ∧
    centers = L.map fun s => s.center (hits s)

/-- Nothing is tallied at first. -/
theorem tally_nil : Tally squares (fun _ => 0) [] :=
  ⟨[], List.nodup_nil, fun _ => iff_of_false List.not_mem_nil fun h => lt_irrefl 0 h.2, rfl⟩

/-- A tally depends on the hits of the squares only. -/
theorem Tally.congr (h : Tally squares hits centers) (hsame : ∀ s ∈ squares, hits' s = hits s) :
    Tally squares hits' centers := by
  obtain ⟨L, hnodup, hmem, rfl⟩ := h
  refine ⟨L, hnodup, fun s => ?_, List.map_congr_left fun s hs => ?_⟩
  · rw [hmem]
    exact and_congr_right fun hs => by rw [hsame s hs]
  · rw [hsame s ((hmem s).mp hs).1]

/-- One more hit of a square. -/
theorem Tally.add (h : Tally squares hits centers) (hapart : squares.Pairwise FinderSquare.Apart)
    (hs : s ∈ squares) (hhit : hits' s = hits s + 1)
    (hsame : ∀ t ∈ squares, t ≠ s → hits' t = hits t) :
    Tally squares hits' (addCenter s.centerX s.centerY s.m centers) := by
  obtain ⟨L, hnodup, hmem, rfl⟩ := h
  have hsub : ∀ t ∈ L, t ∈ squares := fun t ht => ((hmem t).mp ht).1
  by_cases hknown : s ∈ L
  -- A square that was hit before: its centre absorbs the hit.
  · refine ⟨L, hnodup, fun t => ?_, addCenter_hit hnodup hknown
      (fun t ht hne => hapart.forall (hsub t ht) hs hne) hhit fun t ht => hsame t (hsub t ht)⟩
    rw [hmem]
    refine and_congr_right fun ht => ?_
    by_cases heq : t = s
    · rw [heq, hhit]
      exact iff_of_true ((hmem s).mp hknown).2 (Nat.succ_pos _)
    · rw [hsame t ht heq]
  · have hzero : hits s = 0 := by
      by_contra hne
      exact hknown ((hmem s).mpr ⟨hs, Nat.pos_of_ne_zero hne⟩)
    have hne : ∀ t ∈ L, t ≠ s := fun t ht => ne_of_mem_of_not_mem ht hknown
    -- A new one: its centre is added at the end.
    refine ⟨L ++ [s], ?_, fun t => ?_, ?_⟩
    · exact hnodup.append (List.nodup_singleton s) (List.disjoint_singleton.mpr hknown)
    · rw [List.mem_append, List.mem_singleton, hmem]
      by_cases heq : t = s
      · rw [heq, hhit]
        exact iff_of_true (Or.inr rfl) ⟨hs, Nat.succ_pos _⟩
      · rw [or_iff_left heq]
        exact and_congr_right fun ht => by rw [hsame t ht heq]
    · rw [addCenter_new fun t ht => hapart.forall (hsub t ht) hs (hne t ht), List.map_append,
        List.map_singleton, hhit, hzero]
      refine congrArg (· ++ _) (List.map_congr_left fun t ht => ?_)
      rw [hsame t (hsub t ht) (hne t ht)]

/-! ### Rows -/

/-- The hits of a row so far, where the cells before `x` are read. -/
def rowHits (s : FinderSquare) (y x : Nat) : Nat :=
  if s.Crosses y ∧ s.x + 7 * s.m < x then 1 else 0

/-- Before the first pixel of a row no square has been hit. -/
theorem rowHits_zero : rowHits s y 0 = 0 :=
  if_neg fun h => Nat.not_lt_zero _ h.2

/-- A pixel that ends no square adds no hit. -/
theorem rowHits_succ {x : Nat} (h : ¬(s.Crosses y ∧ s.x + 7 * s.m = x)) :
    rowHits s y (x + 1) = rowHits s y x := by
  unfold rowHits
  refine if_congr (and_congr_right fun hcross => ?_) rfl rfl
  have hend : s.x + 7 * s.m ≠ x := fun heq => h ⟨hcross, heq⟩
  omega

/-- The pixel after a square that is crossed adds a hit. -/
theorem rowHits_end (h : s.Crosses y) :
    rowHits s y (s.x + 7 * s.m + 1) = rowHits s y (s.x + 7 * s.m) + 1 := by
  unfold rowHits
  rw [if_pos ⟨h, by omega⟩, if_neg fun hand => lt_irrefl _ hand.2]

/-- At the right edge every square that is crossed has been hit. -/
theorem rowHits_width {x : Nat} (h : s.x + 7 * s.m < x) :
    rowHits s y x = if s.Crosses y then 1 else 0 :=
  if_congr (and_iff_left h) rfl rfl

/-- **A row** hits each square that it crosses once. -/
theorem scanRow_tally (h : CleanFrame bitmap squares) (hwidth : 0 < width) (hy : y < height)
    (ht : Tally squares hits centers) :
    Tally squares (fun s => hits s + if s.Crosses y then 1 else 0) (scanRow bitmap centers y) := by
  -- Before the turn at `x`, the squares that end further left are hit.
  have hrow := @scanRow_invariant _ _ bitmap y centers
    (fun x => Tally squares fun s => hits s + rowHits s y x) hwidth
    (ht.congr fun s _ => by rw [rowHits_zero, Nat.add_zero]) ?_ ?_
  · refine hrow.congr fun s hs => ?_
    have hin := h.inside s hs
    rw [rowHits_width (by omega)]
  · intro x _ cs hcs hnone
    refine hcs.congr fun s hs => ?_
    rw [rowHits_succ]
    rintro ⟨hcross, rfl⟩
    refine hnone _ _ (h.square_window hs hcross) ?_
    rw [squareWindow_total]
  · intro x _ cs a r hcs hw htotal
    by_cases hsquare : ∃ s ∈ squares, s.Crosses y ∧ s.x + 7 * s.m = x
    · obtain ⟨s, hs, hcross, rfl⟩ := hsquare
      obtain ⟨rfl, rfl⟩ := hw.unique (h.square_window hs hcross)
        (htotal.trans (by rw [squareWindow_total]))
      rw [h.tryRowCandidate_square hs hcross]
      refine hcs.add h.apart hs ?_ fun t ht hne => ?_
      · rw [rowHits_end hcross, Nat.add_assoc]
      · rw [rowHits_succ]
        rintro ⟨hcross', hend⟩
        have hapart := h.apart.forall ht hs hne
        have hm := s.two_le
        have hm' := t.two_le
        unfold FinderSquare.Apart at hapart
        unfold FinderSquare.Crosses at hcross hcross'
        omega
    · subst htotal
      rcases h.tryRowCandidate_window hy hw with hunchanged | ⟨s, hs, hcross, rfl, rfl⟩
      · rw [hunchanged]
        refine hcs.congr fun s hs => ?_
        rw [rowHits_succ fun hand => hsquare ⟨s, hs, hand⟩]
      · rw [squareWindow_total] at hsquare
        exact absurd ⟨s, hs, hcross, rfl⟩ hsquare

/-- Some rows hit each square as often as they cross it. -/
theorem rows_tally (h : CleanFrame bitmap squares) (hwidth : 0 < width) {rows : List Nat}
    (hrows : ∀ y ∈ rows, y < height) (ht : Tally squares hits centers) :
    Tally squares (fun s => hits s + rows.countP fun y => s.Crosses y)
      (rows.foldl (scanRow bitmap) centers) := by
  induction rows generalizing hits centers with
  | nil => exact ht
  | cons y rest ih =>
    rw [List.forall_mem_cons] at hrows
    rw [List.foldl_cons]
    refine (ih hrows.2 (scanRow_tally h hwidth hrows.1 ht)).congr fun s _ => ?_
    rw [List.countP_cons]
    simp only [decide_eq_true_eq]
    omega

/-! ### All rows -/

/-- Every other row is scanned. -/
theorem mem_scannedRows : y ∈ scannedRows height ↔ y < height ∧ y % 2 = 0 := by
  unfold scannedRows rowStep
  rw [List.mem_range']
  constructor
  · rintro ⟨i, hi, rfl⟩
    omega
  · rintro ⟨hy, heven⟩
    exact ⟨y / 2, by omega, by omega⟩

/-- Every square is crossed by two rows at least. -/
theorem two_le_hits (h : CleanFrame bitmap squares) (hs : s ∈ squares) :
    2 ≤ (scannedRows height).countP fun y => s.Crosses y := by
  have hm := s.two_le
  have hin := h.inside s hs
  -- The first even row of the inner square, and the next.
  obtain ⟨y, heven, hlow, hhigh⟩ : ∃ y, y % 2 = 0 ∧ s.y + 2 * s.m ≤ y ∧ y ≤ s.y + 2 * s.m + 1 :=
    ⟨(s.y + 2 * s.m + 1) / 2 * 2, by omega, by omega, by omega⟩
  have hrows : [y, y + 2] ⊆ (scannedRows height).filter fun y => s.Crosses y := by
    intro z hz
    rw [List.mem_filter, mem_scannedRows, decide_eq_true_eq, FinderSquare.Crosses]
    simp only [List.mem_cons, List.not_mem_nil, or_false] at hz
    omega
  have hnodup : [y, y + 2].Nodup := by
    rw [List.nodup_cons, List.mem_singleton]
    exact ⟨by omega, List.nodup_singleton _⟩
  rw [List.countP_eq_length_filter]
  exact (List.subperm_of_subset hnodup hrows).length_le

end Tally

section Exact

variable {D : Type} {binarize : D → (width height : Nat) → Vector Bool (width * height)}
  {data : D} {width height : Nat} {squares : List FinderSquare}

/-- A frame too small for a square has none. -/
theorem no_squares (h : CleanFrame (binarize data width height) squares)
    (hsmall : width < 7 ∨ height < 7) : squares = [] := by
  refine List.eq_nil_iff_forall_not_mem.mpr fun s hs => ?_
  have hm := s.two_le
  have hin := h.inside s hs
  omega

/-- What is found are the squares, each with its hits. -/
theorem findQrFinderPatterns_perm (h : CleanFrame (binarize data width height) squares) :
    ∃ hits : FinderSquare → Nat,
      (findQrFinderPatterns binarize (some data) width height).Perm
        (squares.map fun s => s.center (hits s)) := by
  unfold findQrFinderPatterns
  dsimp only
  split_ifs with hsmall
  · rw [no_squares h hsmall]
    exact ⟨fun _ => 0, List.Perm.refl _⟩
  · have hrows := rows_tally h (by omega) (fun y hy => (mem_scannedRows.mp hy).1) tally_nil
    simp only [Nat.zero_add] at hrows
    obtain ⟨L, hnodup, hmem, hcenters⟩ := hrows
    have htwice : ∀ s ∈ L, 2 ≤ (scannedRows height).countP fun y => s.Crosses y :=
      fun s hs => two_le_hits h ((hmem s).mp hs).1
    have hall : L.Perm squares := by
      refine (List.perm_ext_iff_of_nodup hnodup (h.apart.imp FinderSquare.Apart.ne)).mpr
        fun s => ?_
      rw [hmem]
      exact and_iff_left_of_imp fun hs => Nat.two_pos.trans_le (two_le_hits h hs)
    refine ⟨fun s => (scannedRows height).countP fun y => s.Crosses y, ?_⟩
    rw [hcenters, List.filter_eq_self.mpr]
    · exact hall.map _
    · intro c hc
      obtain ⟨s, hs, rfl⟩ := List.mem_map.mp hc
      exact decide_eq_true (htwice s hs)

/-- **Clean finder squares are counted exactly.** On a frame of any squares that do not touch there
    is one centre for each, at its middle and of its module size, and no other. -/
theorem finders_exact (h : CleanFrame (binarize data width height) squares) :
    ((findQrFinderPatterns binarize (some data) width height).map fun c =>
        (c.x, c.y, c.moduleSize)).Perm
      (squares.map fun s => (s.centerX, s.centerY, (s.m : ℚ))) ∧
    countQrFinderPatterns binarize (some data) width height = squares.length := by
  obtain ⟨hits, hperm⟩ := findQrFinderPatterns_perm h
  constructor
  · have hmap := hperm.map fun c => (c.x, c.y, c.moduleSize)
    rwa [List.map_map] at hmap
  · unfold countQrFinderPatterns
    rw [hperm.length_eq, List.length_map]

end Exact

/-! ### Frames of given squares -/

/-- The frame of some squares. -/
def drawSquares (squares : List FinderSquare) (width height : Nat) :
    Vector Bool (width * height) :=
  Vector.ofFn fun i => squares.any fun s => s.Dark (i.val % width : Nat) (i.val / width : Nat)

/-- A pixel of the drawn frame is dark if one of the squares is. -/
theorem drawSquares_getD {squares : List FinderSquare} {width height x y : Nat} (hx : x < width)
    (hy : y < height) :
    (drawSquares squares width height).getD (y * width + x) false
      = squares.any fun s => s.Dark x y := by
  have hi : y * width + x < width * height :=
    calc y * width + x < y * width + width := Nat.add_lt_add_left hx _
      _ = (y + 1) * width := (Nat.succ_mul y width).symm
      _ ≤ height * width := Nat.mul_le_mul_right width hy
      _ = width * height := Nat.mul_comm ..
  have hmod : (y * width + x) % width = x := by
    rw [Nat.add_comm, Nat.add_mul_mod_self_right, Nat.mod_eq_of_lt hx]
  have hdiv : (y * width + x) / width = y := by
    rw [Nat.add_comm, Nat.add_mul_div_right _ _ (by omega), Nat.div_eq_of_lt hx, Nat.zero_add]
  unfold drawSquares
  rw [Vector.getD, Vector.toArray_ofFn, Array.getD_eq_getD_getElem?, Array.getElem?_ofFn,
    dif_pos hi, Option.getD_some, hmod, hdiv]

/-- Squares that do not touch make a clean frame. -/
theorem cleanFrame_drawSquares {squares : List FinderSquare} {width height : Nat}
    (hinside : ∀ s ∈ squares, s.x + 7 * s.m ≤ width ∧ s.y + 7 * s.m ≤ height)
    (hapart : squares.Pairwise FinderSquare.Apart) :
    CleanFrame (drawSquares squares width height) squares := by
  refine ⟨hinside, hapart, fun x hx y hy => ?_⟩
  rw [drawSquares_getD hx hy, List.any_eq_true]
  simp only [decide_eq_true_eq]

/-- Two squares against three edges, a light column between them. -/
def twoSquares : List FinderSquare := [⟨0, 0, 2, le_rfl⟩, ⟨15, 1, 2, le_rfl⟩]

/-- Both are counted. -/
theorem finders_exact_two :
    ((findQrFinderPatterns (fun squares => drawSquares squares) (some twoSquares) 29 15).map
        fun c => (c.x, c.y, c.moduleSize)).Perm [(7, 7, 2), (22, 8, 2)] ∧
      countQrFinderPatterns (fun squares => drawSquares squares) (some twoSquares) 29 15 = 2 := by
  have hcenters : (twoSquares.map fun s => (s.centerX, s.centerY, (s.m : ℚ)))
      = [(7, 7, 2), (22, 8, 2)] := by
    decide +kernel
  have hexact := @finders_exact _ (fun squares => drawSquares squares) twoSquares 29 15 twoSquares
    (cleanFrame_drawSquares (by decide) (by decide))
  rw [hcenters] at hexact
  exact hexact

end BoxOffice
