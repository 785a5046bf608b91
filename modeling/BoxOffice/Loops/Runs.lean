import Mathlib.Algebra.Order.Ring.Nat

namespace Loops

/-!
# Loops — runs of equal values

A sequence is cut at its start and wherever its value changes; a run lies between two cuts.

* `IsRun.unique` — two runs that share a position are one;
* `EndsInRuns` lists the runs of what a loop has read, the latest first; `EndsInRuns.same` and
  `EndsInRuns.new` extend it by one value;
* `EndsInRuns.eq_cons` — a run that ends where the list does is its latest.
-/

section Runs

variable {α : Type} {f : Nat → α} {a b e i n k : Nat} {c : α} {L : List Nat}

/-- The start, or a value that is not the one before it. -/
def Cut (f : Nat → α) (i : Nat) : Prop := i = 0 ∨ f (i - 1) ≠ f i

/-- The `n` values from `b` on lie between two cuts. -/
structure IsRun (f : Nat → α) (b n : Nat) : Prop where
  pos : 0 < n
  left : Cut f b
  right : Cut f (b + n)
  inner : ∀ i, b < i → i < b + n → ¬Cut f i

/-- Without a cut the colour goes on. -/
theorem eq_of_not_cut (h : ¬Cut f i) : f (i - 1) = f i := by
  unfold Cut at h
  push Not at h
  exact h.2

/-- At a cut the colour changes. -/
theorem ne_of_cut (h : Cut f i) (hi : 0 < i) : f (i - 1) ≠ f i :=
  h.resolve_left hi.ne'

/-! ### One run -/

/-- A cell is in one run only. -/
theorem IsRun.unique (h : IsRun f b n) (h' : IsRun f a k) (hb : b ≤ i) (hn : i < b + n)
    (ha : a ≤ i) (hk : i < a + k) : b = a ∧ n = k := by
  have hstart : b = a := by
    rcases Nat.lt_trichotomy b a with hlt | heq | hgt
    · exact absurd h'.left (h.inner a hlt (by omega))
    · exact heq
    · exact absurd h.left (h'.inner b hgt (by omega))
  subst hstart
  refine ⟨rfl, ?_⟩
  rcases Nat.lt_trichotomy n k with hlt | heq | hgt
  · exact absurd h.right (h'.inner (b + n) (by have := h.pos; omega) (by omega))
  · exact heq
  · exact absurd h'.right (h.inner (b + k) (by have := h'.pos; omega) (by omega))

/-- A run has one length. -/
theorem IsRun.unique_start (h : IsRun f b n) (h' : IsRun f b k) : n = k := by
  have hn := h.pos
  have hk := h'.pos
  exact (h.unique h' (i := b) (by omega) (by omega) (by omega) (by omega)).2

/-- A run has one start. -/
theorem IsRun.unique_stop (h : IsRun f b n) (h' : IsRun f a k) (he : b + n = a + k) :
    b = a ∧ n = k := by
  have hn := h.pos
  have hk := h'.pos
  exact h.unique h' (i := b + n - 1) (by omega) (by omega) (by omega) (by omega)

/-- A run has one value. -/
theorem IsRun.eq_start (h : IsRun f b n) : ∀ k < n, f (b + k) = f b := by
  intro k
  induction k with
  | zero => exact fun _ => rfl
  | succ k ih =>
    intro hk
    have hstep := eq_of_not_cut (h.inner (b + (k + 1)) (by omega) (by omega))
    exact hstep.symm.trans (ih (by omega))

/-- The last cell of a run has its colour. -/
theorem IsRun.eq_last (h : IsRun f b n) (he : e = b + n) : f (e - 1) = f b := by
  have hlast := h.eq_start (n - 1) (by have := h.pos; omega)
  rwa [show b + (n - 1) = e - 1 by have := h.pos; omega] at hlast

/-- The next run has another one. -/
theorem IsRun.ne_next (h : IsRun f b n) : f b ≠ f (b + n) := by
  rw [← h.eq_last rfl]
  exact ne_of_cut h.right (by have := h.pos; omega)

/-- A run between two other colours. -/
theorem isRun_of_eq (hn : 0 < n) (hrun : ∀ i, b ≤ i → i < b + n → f i = c)
    (hleft : b = 0 ∨ f (b - 1) ≠ c) (hright : f (b + n) ≠ c) : IsRun f b n where
  pos := hn
  left := by
    rcases hleft with h | h
    · exact Or.inl h
    · exact Or.inr (by rwa [hrun b le_rfl (by omega)])
  right := by
    refine Or.inr ?_
    rw [hrun (b + n - 1) (by omega) (by omega)]
    exact hright.symm
  inner := by
    intro i hb hi hcut
    refine ne_of_cut hcut (by omega) ?_
    rw [hrun (i - 1) (by omega) (by omega), hrun i (by omega) (by omega)]

/-! ### What has been read -/

/-- The first `e` values fall into these runs, the latest first; the latest may go on. -/
inductive EndsInRuns (f : Nat → α) : Nat → List Nat → Prop
  | nil : EndsInRuns f 0 []
  | cons {b n : Nat} {L : List Nat} (before : EndsInRuns f b L) (pos : 0 < n) (left : Cut f b)
      (inner : ∀ i, b < i → i < b + n → ¬Cut f i) : EndsInRuns f (b + n) (n :: L)

/-- One more value of the latest run. -/
theorem EndsInRuns.same (h : EndsInRuns f e (n :: L)) (he : ¬Cut f e) :
    EndsInRuns f (e + 1) ((n + 1) :: L) := by
  cases h with
  | @cons b _ _ before pos left inner =>
    refine .cons before (Nat.succ_pos n) left fun i hb hi => ?_
    rcases Nat.lt_or_ge i (b + n) with hlt | hge
    · exact inner i hb hlt
    · rwa [show i = b + n by omega]

/-- The first value of a new run. -/
theorem EndsInRuns.new (h : EndsInRuns f e L) (he : Cut f e) : EndsInRuns f (e + 1) (1 :: L) :=
  .cons h Nat.one_pos he fun _ _ _ => by omega

/-- Where the latest run ends it is a run. -/
theorem EndsInRuns.isRun (h : EndsInRuns f e (n :: L)) (he : Cut f e) :
    ∃ b, e = b + n ∧ Cut f b ∧ IsRun f b n ∧ EndsInRuns f b L := by
  cases h with
  | @cons b _ _ before pos left inner => exact ⟨b, rfl, left, ⟨pos, left, he, inner⟩, before⟩

/-- A run that ends where the list does is its latest. -/
theorem EndsInRuns.eq_cons (h : EndsInRuns f e L) (hrun : IsRun f b n) (he : b + n = e) :
    ∃ L', L = n :: L' ∧ EndsInRuns f b L' := by
  cases h with
  | nil => have := hrun.pos; omega
  | @cons a k L' before pos left inner =>
    have hlast : IsRun f a k := ⟨pos, left, he ▸ hrun.right, inner⟩
    obtain ⟨hb, hn⟩ := hlast.unique_stop hrun he.symm
    exact ⟨L', by rw [hn], hb ▸ before⟩

end Runs

end Loops
