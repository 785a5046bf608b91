import Mathlib.Algebra.BigOperators.Group.List.Basic
import Mathlib.Data.List.Sort
import Mathlib.Data.Prod.Lex

namespace Relational

/-!
# Relational library — ordering and grouping rows

`sortBy` is a stable `ORDER BY`.  Where no two rows have the same key its result depends on the
rows only and not on the order they come in (`sortBy_eq_of_perm`), which is what makes ordered
output comparable.

* `groupBy` splits rows by a label; `groupBy_perm` says that it loses and repeats none, and
  `groupBy_sum` that the subtotals add up.
-/

variable {α β γ : Type*}

section SortBy

variable [LinearOrder β] {key : α → β} {l l' : List α}

/-- The rows in the order of a key; rows with equal keys stay in their order. -/
def sortBy (key : α → β) (l : List α) : List α := l.insertionSort fun a b => key a ≤ key b

/-- Sorting keeps the elements. -/
theorem sortBy_perm (key : α → β) (l : List α) : (sortBy key l).Perm l :=
  List.perm_insertionSort _ _

/-- What is sorted is what there was. -/
theorem mem_sortBy {a : α} : a ∈ sortBy key l ↔ a ∈ l := (sortBy_perm key l).mem_iff

/-- A sorted list is in order. -/
theorem sortBy_pairwise (key : α → β) (l : List α) :
    (sortBy key l).Pairwise fun a b => key a ≤ key b := by
  have htotal : Std.Total fun a b : α => key a ≤ key b := ⟨fun a b => le_total _ _⟩
  have htrans : IsTrans α fun a b => key a ≤ key b := ⟨fun _ _ _ => le_trans⟩
  exact List.pairwise_insertionSort _ l

/-- Rows that are in order stay as they are. -/
theorem sortBy_eq_self (h : l.Pairwise fun a b => key a ≤ key b) : sortBy key l = l :=
  h.insertionSort_eq

/-- **Determinacy.** The same rows with distinct keys come out in the same order. -/
theorem sortBy_eq_of_perm (h : l.Perm l') (hinj : ∀ a ∈ l, ∀ b ∈ l, key a = key b → a = b) :
    sortBy key l = sortBy key l' := by
  refine (@List.Perm.eq_of_pairwise _ (fun a b => key a ≤ key b)) ?_ (sortBy_pairwise key l)
    (sortBy_pairwise key l') (((sortBy_perm key l).trans h).trans (sortBy_perm key l').symm)
  intro a b ha hb hab hba
  exact hinj a (mem_sortBy.mp ha) b (h.mem_iff.mpr (mem_sortBy.mp hb)) (le_antisymm hab hba)

/-- The result of ordering rows with distinct keys, by the order alone. -/
theorem sortBy_eq_iff (h : l'.Perm l) (hinj : ∀ a ∈ l, ∀ b ∈ l, key a = key b → a = b) :
    sortBy key l = l' ↔ l'.Pairwise fun a b => key a ≤ key b := by
  refine ⟨fun heq => heq ▸ sortBy_pairwise key l, fun hsorted => ?_⟩
  rw [sortBy_eq_of_perm h.symm hinj, sortBy_eq_self hsorted]

/-- A row that a filter drops is inserted for nothing. -/
theorem filter_orderedInsert_of_neg {p : α → Bool} {a : α} (ha : p a = false) (l : List α) :
    (l.orderedInsert (fun a b => key a ≤ key b) a).filter p = l.filter p := by
  induction l with
  | nil => simp [ha]
  | cons b l ih =>
    rw [List.orderedInsert_cons]
    split_ifs
    · rw [List.filter_cons_of_neg (by simp [ha])]
    · rw [List.filter_cons, List.filter_cons, ih]

/-- A row that a filter keeps is inserted before or after it. -/
theorem filter_orderedInsert_of_pos {p : α → Bool} {a : α} (ha : p a = true)
    (hl : l.Pairwise fun a b => key a ≤ key b) :
    (l.orderedInsert (fun a b => key a ≤ key b) a).filter p
      = (l.filter p).orderedInsert (fun a b => key a ≤ key b) a := by
  induction l with
  | nil => simp [ha]
  | cons b l ih =>
    obtain ⟨hb, hrest⟩ := List.pairwise_cons.mp hl
    rw [List.orderedInsert_cons]
    split_ifs with hab
    · rw [List.filter_cons_of_pos ha]
      -- Whatever the filter leaves is not before the inserted row.
      cases hf : (b :: l).filter p with
      | nil => rfl
      | cons c rest =>
        have hc : c ∈ b :: l := (List.mem_filter.mp (hf ▸ List.mem_cons_self ..)).1
        have hac : key a ≤ key c := by
          rcases List.mem_cons.mp hc with rfl | hc
          · exact hab
          · exact hab.trans (hb c hc)
        rw [List.orderedInsert_cons, if_pos hac]
    · rw [List.filter_cons, List.filter_cons, ih hrest]
      split_ifs
      · rw [List.orderedInsert_cons, if_neg hab]
      · rfl

/-- **Stability.** A filter can be taken before or after. -/
theorem filter_sortBy (p : α → Bool) (l : List α) :
    (sortBy key l).filter p = sortBy key (l.filter p) := by
  induction l with
  | nil => rfl
  | cons a l ih =>
    show ((sortBy key l).orderedInsert (fun a b => key a ≤ key b) a).filter p = _
    cases ha : p a with
    | false =>
      rw [filter_orderedInsert_of_neg ha, ih, List.filter_cons_of_neg (by simp [ha])]
    | true =>
      rw [filter_orderedInsert_of_pos ha (sortBy_pairwise key l), ih, List.filter_cons_of_pos ha]
      rfl

/-- A map that keeps the key can be taken before or after. -/
theorem map_sortBy {δ : Type*} {f : α → δ} {key' : δ → β} (h : ∀ a, key' (f a) = key a) :
    (sortBy key l).map f = sortBy key' (l.map f) :=
  List.map_insertionSort _ _ f l fun a _ b _ => by rw [h, h]

end SortBy

section GroupBy

variable [DecidableEq γ] {label : α → γ} {l : List α}

/-- The rows of each label, one group a label. -/
def groupBy (label : α → γ) (labels : List γ) (l : List α) : List (List α) :=
  labels.map fun c => l.filter fun a => label a = c

/-- **Grouping** by distinct labels that cover the rows keeps every row once. -/
theorem groupBy_perm {labels : List γ} (hnodup : labels.Nodup) (h : ∀ a ∈ l, label a ∈ labels) :
    (groupBy label labels l).flatten.Perm l := by
  unfold groupBy
  induction labels generalizing l with
  | nil =>
    cases l with
    | nil => exact .refl _
    | cons a rest => exact absurd (h a (List.mem_cons_self ..)) (List.not_mem_nil)
  | cons c rest ih =>
    obtain ⟨hc, hrest⟩ := List.nodup_cons.mp hnodup
    rw [List.map_cons, List.flatten_cons]
    -- The rows of the other labels are found among the rows without label `c`.
    have hothers : (rest.map fun d => l.filter fun a => label a = d)
        = rest.map fun d => (l.filter fun a => !decide (label a = c)).filter fun a => label a = d := by
      refine List.map_congr_left fun d hd => ?_
      rw [List.filter_filter]
      refine List.filter_congr fun a _ => ?_
      by_cases had : label a = d
      · have hne : label a ≠ c := fun hac => hc (hac ▸ had ▸ hd)
        simp [had, had ▸ hne]
      · simp [had]
    have hperm := ih hrest (l := l.filter fun a => !decide (label a = c)) fun a ha => by
      obtain ⟨hmem, hne⟩ := List.mem_filter.mp ha
      exact (List.mem_cons.mp (h a hmem)).resolve_left (by simpa using hne)
    rw [hothers]
    exact (hperm.append_left _).trans (List.filter_append_perm _ l)

/-- **Subtotals** of the groups add up to the total. -/
theorem groupBy_sum {M : Type*} [AddCommMonoid M] (label : α → γ) {labels : List γ}
    (hnodup : labels.Nodup) (h : ∀ a ∈ l, label a ∈ labels) (w : α → M) :
    ((groupBy label labels l).map fun g => (g.map w).sum).sum = (l.map w).sum := by
  rw [← ((groupBy_perm hnodup h).map w).sum_eq, List.map_flatten, List.sum_flatten, List.map_map]
  rfl

end GroupBy

end Relational
