import Mathlib.Algebra.BigOperators.Group.List.Basic
import Mathlib.Data.List.Dedup

namespace Relational

/-!
# Relational library — queries

The parts of `SELECT` over lists of rows, where `none` is `NULL`.

* `innerJoin`, `leftJoin` — nested loops; a row without partners is joined with `none` once;
* `exactLookup` — a comparison with a parameter, which is `IS NULL` for the parameter `none`;
* `sqlSum` — `SUM`, which is `none` over no values.
-/

variable {α β : Type*} {xs : List α} {ys : List β} {on : α → β → Bool}

/-- `INNER JOIN`. -/
def innerJoin (xs : List α) (ys : List β) (on : α → β → Bool) : List (α × β) :=
  xs.flatMap fun x => (ys.filter (on x)).map fun y => (x, y)

/-- `LEFT OUTER JOIN`. -/
def leftJoin (xs : List α) (ys : List β) (on : α → β → Bool) : List (α × Option β) :=
  xs.flatMap fun x =>
    match ys.filter (on x) with
    | [] => [(x, none)]
    | partners => partners.map fun y => (x, some y)

/-- A join has the pairs that match. -/
theorem mem_innerJoin {p : α × β} :
    p ∈ innerJoin xs ys on ↔ p.1 ∈ xs ∧ p.2 ∈ ys ∧ on p.1 p.2 = true := by
  obtain ⟨x, y⟩ := p
  simp only [innerJoin, List.mem_flatMap, List.mem_map, List.mem_filter, Prod.mk.injEq]
  constructor
  · rintro ⟨_, hx, _, ⟨hy, hon⟩, rfl, rfl⟩
    exact ⟨hx, hy, hon⟩
  · rintro ⟨hx, hy, hon⟩
    exact ⟨x, hx, y, ⟨hy, hon⟩, rfl, rfl⟩

/-- A row with a partner. -/
theorem mem_leftJoin_some {x : α} {y : β} :
    (x, some y) ∈ leftJoin xs ys on ↔ x ∈ xs ∧ y ∈ ys ∧ on x y = true := by
  simp only [leftJoin, List.mem_flatMap]
  constructor
  · rintro ⟨x', hx, hmem⟩
    split at hmem
    · simp at hmem
    · obtain ⟨y', hy, heq⟩ := List.mem_map.mp hmem
      obtain ⟨rfl, hy'⟩ := Prod.mk.inj heq
      obtain rfl := Option.some.inj hy'
      exact ⟨hx, List.mem_filter.mp hy⟩
  · rintro ⟨hx, hy, hon⟩
    refine ⟨x, hx, ?_⟩
    have hmem : y ∈ ys.filter (on x) := List.mem_filter.mpr ⟨hy, hon⟩
    split
    next hnil => rw [hnil] at hmem; cases hmem
    next => exact List.mem_map.mpr ⟨y, hmem, rfl⟩

/-- A row without partners. -/
theorem mem_leftJoin_none {x : α} :
    (x, none) ∈ leftJoin xs ys on ↔ x ∈ xs ∧ ∀ y ∈ ys, on x y = false := by
  simp only [leftJoin, List.mem_flatMap]
  constructor
  · rintro ⟨x', hx, hmem⟩
    split at hmem
    next hnil =>
      obtain ⟨rfl, -⟩ := Prod.mk.inj (List.mem_singleton.mp hmem)
      refine ⟨hx, fun y hy => ?_⟩
      simpa using List.filter_eq_nil_iff.mp hnil y hy
    next => simp at hmem
  · rintro ⟨hx, hnone⟩
    refine ⟨x, hx, ?_⟩
    have hnil : ys.filter (on x) = [] := List.filter_eq_nil_iff.mpr fun y hy => by
      simp [hnone y hy]
    simp [hnil]

/-- `column = value`, or `column IS NULL`. -/
def exactLookup [DecidableEq α] (column value : Option α) : Bool :=
  match value with
  | none => column.isNone
  | some v => column = some v

/-- A lookup matches equal values, and NULL by IS NULL. -/
theorem exactLookup_iff [DecidableEq α] {column value : Option α} :
    exactLookup column value = true ↔ column = value := by
  cases value <;> simp [exactLookup]

/-- `SUM`. -/
def sqlSum [AddMonoid α] (values : List (Option α)) : Option α :=
  match values.filterMap id with
  | [] => none
  | present => some present.sum

/-- Aggregating over the partners of a row that a condition keeps. -/
theorem sqlSum_leftJoin [AddMonoid α] {γ : Type*} (x : γ) (ys : List β) (on : γ → β → Bool)
    (keep : β → Bool) (value : β → α) :
    sqlSum ((leftJoin [x] ys on).map fun row =>
        row.2.bind fun y => if keep y then some (value y) else none)
      = match ys.filter fun y => on x y && keep y with
        | [] => none
        | kept => some (kept.map value).sum := by
  have hpresent : ((leftJoin [x] ys on).map fun row =>
      row.2.bind fun y => if keep y then some (value y) else none).filterMap id
        = (ys.filter fun y => on x y && keep y).map value := by
    have hsplit : (ys.filter fun y => on x y && keep y) = (ys.filter (on x)).filter keep := by
      rw [List.filter_filter]
      exact List.filter_congr fun y _ => Bool.and_comm _ _
    rw [hsplit, leftJoin, List.flatMap_singleton]
    generalize ys.filter (on x) = partners
    cases partners with
    | nil => rfl
    | cons y partners =>
      show List.filterMap id (List.map _ (List.map _ (y :: partners))) = _
      generalize y :: partners = l
      induction l with
      | nil => rfl
      | cons y l ih => by_cases hy : keep y <;> simp_all
  unfold sqlSum
  rw [hpresent]
  cases ys.filter fun y => on x y && keep y <;> rfl

end Relational
